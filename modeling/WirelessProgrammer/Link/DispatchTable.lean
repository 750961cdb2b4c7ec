import Mathlib.Data.List.TakeWhile
import WirelessProgrammer.Link.Z21

/-!
# The outcome of a dispatch

What `dispatch_addr` returns, against the records that the target has sent.  `OutcomeTable` is the table of outcomes; it
holds of a run if and only if the answer that decides was sent after the request, and no serial number that is the only
sign of life comes after the probe (`outcomeTable_iff`).
-/

namespace WirelessProgrammer.Z21

open Effect

def isSerial (rec : Record) : Bool := rec.header = HEADER_GET_SERIAL_NUMBER

/-- A record that decides the outcome. -/
inductive Answer
  | unknownCommand
  | rejected
  | slot (n : UInt8)
  deriving DecidableEq, Repr

namespace Answer

def result : Answer → Except DispatchError DispatchOutcome
  | unknownCommand => .error .unknownCommand
  | rejected => .error .rejected
  | slot n => .ok (.slot n)

end Answer

/-- What a record says about the dispatch of `loco`. -/
def answerOf (loco : UInt16) (rec : Record) : Option Answer :=
  if isUnknownCommand rec then some .unknownCommand
  else if rec.header = HEADER_LOCONET_DISPATCH_ADDR then
    match parseDispatchReply rec.data with
    | some (addr, result) => if addr = loco then some (if result = 0 then .rejected else .slot result) else none
    | none => none
  else none

section Table

variable {Addr Ip : Type} [DecidableEq Ip] (ip : Addr → Ip) (target : Addr) (loco : UInt16)

/-- The records that the target's address has sent, each with the instant at which it did. -/
def heardIn : Except IoError (Datagram Addr) → List (Nat × Record)
  | .ok d => if ip d.source = ip target then (parseRecords d.bytes).map fun rec => (d.sent, rec) else []
  | .error _ => []

def heard (tr : List (UdpEvent Addr)) : List (Nat × Record) := (arrivals tr).flatMap (heardIn ip target)

/-- The answers among what is heard, each with the instant it was sent. -/
def answers (tr : List (UdpEvent Addr)) : List (Nat × Answer) :=
  (heard ip target tr).filterMap fun x => (answerOf loco x.2).map fun a => (x.1, a)

/-- An error that is more than nothing to read. -/
def Fails (r : Except IoError (Datagram Addr)) : Prop := ∃ e, r = .error e ∧ isQuiet e = false

def SocketFails (tr : List (UdpEvent Addr)) : Prop :=
  (∃ millis e, ⟨.setReadTimeout millis, .error e⟩ ∈ tr) ∨ ∃ r ∈ arrivals tr, Fails r

private theorem not_fails_ok {d : Datagram Addr} : ¬ Fails (.ok d) := fun ⟨_, h, _⟩ => nomatch h

private theorem isQuiet_of_not_fails {e : IoError} (h : ¬ @Fails Addr (.error e)) : isQuiet e = true := by
  rw [← Bool.not_eq_false]
  exact fun hfalse => h ⟨e, rfl, hfalse⟩

variable [DecidableEq Addr]

/-- The event is not the request of the dispatch. -/
def notRequest : UdpEvent Addr → Bool
  | ⟨.sendTo packet a, _⟩ => ¬ (packet = dispatchAddrRequest loco ∧ a = target)
  | _ => true

def beforeRequest (tr : List (UdpEvent Addr)) : List (UdpEvent Addr) := tr.takeWhile (notRequest target loco)

def sinceRequest (tr : List (UdpEvent Addr)) : List (UdpEvent Addr) := tr.dropWhile (notRequest target loco)

/-- The instant of the request. -/
def requestedAt (tr : List (UdpEvent Addr)) : Option Nat :=
  match sinceRequest target loco tr with
  | ⟨.sendTo _ _, t⟩ :: _ => some t
  | _ => none

/-- The answers that come in after the request, and whether they were sent after it. -/
def answersSince (tr : List (UdpEvent Addr)) : List (Bool × Answer) :=
  (answers ip target loco (sinceRequest target loco tr)).map fun x =>
    ((requestedAt target loco tr).any (· ≤ x.1), x.2)

/-- The table of outcomes. -/
structure OutcomeTable [ToString Addr] (tr : List (UdpEvent Addr)) (r : Except DispatchError DispatchOutcome) :
    Prop where
  slot : ∀ n, r = .ok (.slot n) → 0 < n ∧ ∃ before after,
    answersSince ip target loco tr = before ++ (true, .slot n) :: after ∧
      ∀ x ∈ before, x.2 ≠ .rejected ∧ x.2 ≠ .unknownCommand
  rejected : r = .error .rejected → (true, .rejected) ∈ answersSince ip target loco tr
  unknownCommand : r = .error .unknownCommand → ∃ x ∈ heard ip target tr, isUnknownCommand x.2 = true
  silent : (∀ x ∈ answersSince ip target loco tr, x.1 = false) → (∀ x ∈ heard ip target tr, isUnknownCommand x.2 = false) →
    ¬ SocketFails tr →
    ((∃ x ∈ heard ip target tr, isSerial x.2 = true) → r = .ok .noAck) ∧
      ((∀ x ∈ heard ip target tr, isSerial x.2 = false) → r = .error (.unreachable (toString target)))

/-- A serial number that comes in after the request, without any before, an answer or an error. -/
def LateSerial (tr : List (UdpEvent Addr)) : Prop :=
  answersSince ip target loco tr = [] ∧ ¬ SocketFails tr ∧
    (∀ x ∈ heard ip target (beforeRequest target loco tr), isSerial x.2 = false) ∧
    ∃ x ∈ heard ip target (sinceRequest target loco tr), isSerial x.2 = true

/-- The first answer after the request is a reply that was sent before it. -/
def StaleReply (tr : List (UdpEvent Addr)) : Prop :=
  ∃ a, (answersSince ip target loco tr).head? = some (false, a) ∧ a ≠ .unknownCommand

/-! ### One pass -/

variable {ip target loco}

private theorem answerOf_eq_unknownCommand_iff {rec : Record} :
    answerOf loco rec = some .unknownCommand ↔ isUnknownCommand rec = true := by
  unfold answerOf
  constructor
  · intro h
    by_contra hunknown
    rw [if_neg hunknown] at h
    split at h
    · split at h
      · split at h
        · split at h <;> cases h
        · cases h
      · cases h
    · cases h
  · exact fun h => if_pos h

private theorem slot_pos {rec : Record} {n : UInt8} (h : answerOf loco rec = some (.slot n)) : 0 < n := by
  unfold answerOf at h
  split at h
  · cases h
  split at h
  · split at h
    · split at h
      · split at h
        · cases h
        · rename_i result _ _ hresult
          cases h
          exact UInt8.pos_iff_ne_zero.2 hresult
      · cases h
    · cases h
  · cases h

private theorem fromTarget_iff {source : Addr} : fromTarget ip target source = true ↔ ip source = ip target := by
  unfold fromTarget
  rw [decide_eq_true_iff]
  exact ⟨fun h => h.elim (congrArg ip) id, .inr⟩

private theorem fromTarget_eq_false {source : Addr} (h : ip source ≠ ip target) :
    fromTarget ip target source = false := by
  rw [← Bool.not_eq_true, fromTarget_iff]
  exact h

private theorem foldlM_probeRecord (recs : List Record) (alive : Bool) :
    recs.foldlM probeRecord alive =
      if recs.any isUnknownCommand then .error .unknownCommand else .ok (alive || recs.any isSerial) := by
  induction recs generalizing alive with
  | nil => simp [pure, Except.pure]
  | cons rec recs ih =>
    show (probeRecord alive rec >>= fun alive => recs.foldlM probeRecord alive) = _
    unfold probeRecord
    cases hrec : isUnknownCommand rec with
    | true => simp [hrec, bind, Except.bind]
    | false =>
      show recs.foldlM probeRecord _ = _
      rw [ih]
      simp [hrec, isSerial, Bool.or_assoc]

private theorem dispatchRecord_eq (rec : Record) :
    dispatchRecord loco () rec = match answerOf loco rec with
      | none => .ok ()
      | some a => .error a.result := by
  unfold dispatchRecord answerOf
  split
  · rfl
  · by_cases hheader : rec.header = HEADER_LOCONET_DISPATCH_ADDR
    · rw [if_neg (not_not.2 hheader), if_pos hheader]
      cases parseDispatchReply rec.data with
      | none => rfl
      | some reply =>
        obtain ⟨addr, result⟩ := reply
        by_cases haddr : addr = loco
        · by_cases hresult : result = 0
          · simp [haddr, hresult, Answer.result]
          · simp [haddr, hresult, Answer.result]
        · simp [haddr]
    · rw [if_pos hheader, if_neg hheader]

private theorem foldlM_dispatchRecord (recs : List Record) :
    recs.foldlM (dispatchRecord loco) () = match recs.filterMap (answerOf loco) with
      | [] => .ok ()
      | a :: _ => .error a.result := by
  induction recs with
  | nil => rfl
  | cons rec recs ih =>
    show (dispatchRecord loco () rec >>= fun s => recs.foldlM (dispatchRecord loco) s) = _
    rw [dispatchRecord_eq]
    cases hrec : answerOf loco rec with
    | none =>
      rw [List.filterMap_cons_none hrec]
      exact ih
    | some a =>
      rw [List.filterMap_cons_some hrec]
      rfl

/-- A pass of the first loop without an error. -/
theorem probePass_eq {r : Except IoError (Datagram Addr)} (h : ¬ Fails r) :
    probePass ip target false r =
      if (heardIn ip target r).any (fun x => isUnknownCommand x.2) then .error (.error .unknownCommand)
      else if (heardIn ip target r).any (fun x => isSerial x.2) then .error (.ok ()) else .ok false := by
  cases r with
  | error e =>
    simp [probePass, heardIn, isQuiet_of_not_fails h]
  | ok d =>
    by_cases hip : ip d.source = ip target
    · simp only [probePass, fromTarget_iff.2 hip, if_true, foldlM_probeRecord, heardIn, if_pos hip, List.any_map,
        Bool.false_or, Function.comp_def]
      cases (parseRecords d.bytes).any isUnknownCommand <;> cases (parseRecords d.bytes).any isSerial <;> rfl
    · simp [probePass, fromTarget_eq_false hip, heardIn, hip]

variable (ip target) in
private theorem probePass_fails {r : Except IoError (Datagram Addr)} (h : Fails r) :
    ∃ text, probePass ip target false r = .error (.error (.io text)) := by
  obtain ⟨e, rfl, hquiet⟩ := h
  exact ⟨e.message, by simp [probePass, hquiet]⟩

/-- A pass of the second loop without an error. -/
theorem dispatchPass_eq {r : Except IoError (Datagram Addr)} (h : ¬ Fails r) :
    dispatchPass ip target loco () r = match (heardIn ip target r).filterMap fun x => answerOf loco x.2 with
      | [] => .ok ()
      | a :: _ => .error a.result := by
  cases r with
  | error e =>
    simp [dispatchPass, heardIn, isQuiet_of_not_fails h]
  | ok d =>
    by_cases hip : ip d.source = ip target
    · simp only [dispatchPass, fromTarget_iff.2 hip, if_true, foldlM_dispatchRecord, heardIn, if_pos hip,
        List.filterMap_map, Function.comp_def]
    · simp [dispatchPass, fromTarget_eq_false hip, heardIn, hip]

variable (ip target loco) in
private theorem dispatchPass_fails {r : Except IoError (Datagram Addr)} (h : Fails r) :
    ∃ text, dispatchPass ip target loco () r = .error (.error (.io text)) := by
  obtain ⟨e, rfl, hquiet⟩ := h
  exact ⟨e.message, by simp [dispatchPass, hquiet]⟩

/-! ### The two loops -/

variable (ip target) in
/-- The first loop has gone by without an error and without `LAN_X_UNKNOWN_COMMAND`. -/
structure Probed (tp : List (UdpEvent Addr)) (alive : Bool) : Prop where
  socket : ∀ r ∈ arrivals tp, ¬ Fails r
  unknownCommand : ∀ x ∈ heard ip target tp, isUnknownCommand x.2 = false
  serial : alive = true ↔ ∃ x ∈ heard ip target tp, isSerial x.2 = true

private theorem foldlM_probePass {rs : List (Except IoError (Datagram Addr))} {alive : Bool}
    (h : rs.foldlM (probePass ip target) false = .ok alive) :
    alive = false ∧ (∀ r ∈ rs, ¬ Fails r) ∧
      ∀ x ∈ rs.flatMap (heardIn ip target), isUnknownCommand x.2 = false ∧ isSerial x.2 = false := by
  induction rs with
  | nil =>
    cases h
    exact ⟨rfl, nofun, nofun⟩
  | cons r rs ih =>
    change (probePass ip target false r >>= fun alive => rs.foldlM (probePass ip target) alive) = _ at h
    by_cases hfails : Fails r
    · obtain ⟨text, htext⟩ := probePass_fails ip target hfails
      rw [htext] at h
      cases h
    · rw [probePass_eq hfails] at h
      cases hunknown : (heardIn ip target r).any fun x => isUnknownCommand x.2 with
      | true =>
        rw [hunknown] at h
        cases h
      | false =>
        cases hserial : (heardIn ip target r).any fun x => isSerial x.2 with
        | true =>
          rw [hunknown, hserial] at h
          cases h
        | false =>
          rw [hunknown, hserial] at h
          obtain ⟨halive, hrs, hheard⟩ := ih h
          refine ⟨halive, List.forall_mem_cons.2 ⟨hfails, hrs⟩, ?_⟩
          rw [List.flatMap_cons]
          refine List.forall_mem_append.2 ⟨fun x hx => ?_, hheard⟩
          exact ⟨by simpa using List.any_eq_false.1 hunknown x hx, by simpa using List.any_eq_false.1 hserial x hx⟩

/-- How the first loop ends. -/
theorem run_probe {deadline n : Nat} {tp : List (UdpEvent Addr)} {out : Except (Except DispatchError Unit) Bool}
    (h : Prog.Run (pollUntil deadline (probePass ip target) n false) tp (some out)) :
    match out with
    | .ok alive => Probed ip target tp alive
    | .error (.ok ()) => Probed ip target tp true
    | .error (.error e) => (e = .unknownCommand ∧ ∃ x ∈ heard ip target tp, isUnknownCommand x.2 = true) ∨
        (∃ text, e = .io text) ∧ ∃ r ∈ arrivals tp, Fails r := by
  cases out with
  | ok alive =>
    obtain ⟨rfl, hsocket, hheard⟩ := foldlM_probePass (run_pollUntil_ok h)
    refine ⟨hsocket, fun x hx => (hheard x hx).1, nofun, ?_⟩
    rintro ⟨x, hx, hserial⟩
    exact absurd ((hheard x hx).2.symm.trans hserial) nofun
  | error e =>
    obtain ⟨rs, r, alive, hrs, hfold, hlast⟩ := run_pollUntil_error h
    obtain ⟨rfl, hsocket, hheard⟩ := foldlM_probePass hfold
    have hmem : ∀ {x}, x ∈ heard ip target tp ↔ x ∈ rs.flatMap (heardIn ip target) ∨ x ∈ heardIn ip target r := by
      intro x
      rw [heard, hrs, List.flatMap_append, List.flatMap_singleton, List.mem_append]
    by_cases hfails : Fails r
    · obtain ⟨text, htext⟩ := probePass_fails ip target hfails
      cases htext.symm.trans hlast
      exact .inr ⟨⟨text, rfl⟩, r, by rw [hrs]; simp, hfails⟩
    · rw [probePass_eq hfails] at hlast
      cases hunknown : (heardIn ip target r).any fun x => isUnknownCommand x.2 with
      | true =>
        rw [hunknown] at hlast
        cases hlast
        obtain ⟨x, hx, hxr⟩ := List.any_eq_true.1 hunknown
        exact .inl ⟨rfl, x, hmem.2 (.inr hx), hxr⟩
      | false =>
        cases hserial : (heardIn ip target r).any fun x => isSerial x.2 with
        | false =>
          rw [hunknown, hserial] at hlast
          cases hlast
        | true =>
          rw [hunknown, hserial] at hlast
          cases hlast
          refine ⟨?_, fun x hx => ?_, fun _ => ?_, fun _ => rfl⟩
          · rw [hrs]
            exact List.forall_mem_append.2 ⟨hsocket, by simpa using hfails⟩
          · rcases hmem.1 hx with hx | hx
            · exact (hheard x hx).1
            · simpa using List.any_eq_false.1 hunknown x hx
          · obtain ⟨x, hx, hxr⟩ := List.any_eq_true.1 hserial
            exact ⟨x, hmem.2 (.inr hx), hxr⟩

variable (ip target loco) in
/-- How the second loop ends: with nothing decided, by an error, or by the first answer. -/
inductive Awaited (td : List (UdpEvent Addr)) : Except (Except DispatchError DispatchOutcome) Unit → Prop
  | silence (socket : ∀ r ∈ arrivals td, ¬ Fails r) (none : answers ip target loco td = []) : Awaited td (.ok ())
  | failure (text : String) (socket : ∃ r ∈ arrivals td, Fails r) (none : answers ip target loco td = []) :
      Awaited td (.error (.error (.io text)))
  | answer (sent : Nat) (a : Answer) (as : List (Nat × Answer)) (socket : ∀ r ∈ arrivals td, ¬ Fails r)
      (first : answers ip target loco td = (sent, a) :: as) (sent_eq : ∀ x ∈ as, x.1 = sent) :
      Awaited td (.error a.result)

omit [DecidableEq Addr] in
private theorem Awaited.congr {td td' : List (UdpEvent Addr)} {out : Except (Except DispatchError DispatchOutcome) Unit}
    (h : Awaited ip target loco td out) (heq : arrivals td' = arrivals td) :
    Awaited ip target loco td' out := by
  have hanswers : answers ip target loco td' = answers ip target loco td := by rw [answers, heard, heq, answers, heard]
  cases h with
  | silence socket none => exact .silence (heq ▸ socket) (hanswers.trans none)
  | failure text socket none => exact .failure text (heq ▸ socket) (hanswers.trans none)
  | answer sent a as socket first sent_eq => exact .answer sent a as (heq ▸ socket) (hanswers.trans first) sent_eq

private theorem foldlM_dispatchPass {rs : List (Except IoError (Datagram Addr))}
    (h : rs.foldlM (dispatchPass ip target loco) () = .ok ()) :
    (∀ r ∈ rs, ¬ Fails r) ∧ ∀ x ∈ rs.flatMap (heardIn ip target), answerOf loco x.2 = none := by
  induction rs with
  | nil => exact ⟨nofun, nofun⟩
  | cons r rs ih =>
    change (dispatchPass ip target loco () r >>= fun s => rs.foldlM (dispatchPass ip target loco) s) = _ at h
    by_cases hfails : Fails r
    · obtain ⟨text, htext⟩ := dispatchPass_fails ip target loco hfails
      rw [htext] at h
      cases h
    · rw [dispatchPass_eq hfails] at h
      cases hanswers : (heardIn ip target r).filterMap fun x => answerOf loco x.2 with
      | cons a as =>
        rw [hanswers] at h
        cases h
      | nil =>
        rw [hanswers] at h
        obtain ⟨hrs, hheard⟩ := ih h
        refine ⟨List.forall_mem_cons.2 ⟨hfails, hrs⟩, ?_⟩
        rw [List.flatMap_cons]
        exact List.forall_mem_append.2 ⟨List.filterMap_eq_nil_iff.1 hanswers, hheard⟩

variable (ip target) in
omit [DecidableEq Addr] in
/-- The records of one datagram were sent at once. -/
theorem heardIn_sent (r : Except IoError (Datagram Addr)) : ∃ sent, ∀ x ∈ heardIn ip target r, x.1 = sent := by
  cases r with
  | error e => exact ⟨0, nofun⟩
  | ok d =>
    refine ⟨d.sent, fun x hx => ?_⟩
    by_cases hip : ip d.source = ip target
    · rw [heardIn, if_pos hip] at hx
      obtain ⟨rec, -, rfl⟩ := List.mem_map.1 hx
      rfl
    · rw [heardIn, if_neg hip] at hx
      exact absurd hx List.not_mem_nil

private theorem run_await {deadline n : Nat} {td : List (UdpEvent Addr)}
    {out : Except (Except DispatchError DispatchOutcome) Unit}
    (h : Prog.Run (pollUntil deadline (dispatchPass ip target loco) n ()) td (some out)) :
    Awaited ip target loco td out := by
  have hnone : ∀ {xs : List (Nat × Record)}, (∀ x ∈ xs, answerOf loco x.2 = none) →
      xs.filterMap (fun x => (answerOf loco x.2).map fun a => (x.1, a)) = [] := by
    intro xs hxs
    rw [List.filterMap_eq_nil_iff]
    intro x hx
    rw [hxs x hx]
    rfl
  cases out with
  | ok u =>
    obtain ⟨hsocket, hheard⟩ := foldlM_dispatchPass (run_pollUntil_ok h)
    exact .silence hsocket (hnone hheard)
  | error e =>
    obtain ⟨rs, r, s, hrs, hfold, hlast⟩ := run_pollUntil_error h
    obtain ⟨hsocket, hheard⟩ := foldlM_dispatchPass hfold
    have hanswers : answers ip target loco td =
        (heardIn ip target r).filterMap fun x => (answerOf loco x.2).map fun a => (x.1, a) := by
      rw [answers, heard, hrs, List.flatMap_append, List.flatMap_singleton, List.filterMap_append, hnone hheard,
        List.nil_append]
    by_cases hfails : Fails r
    · obtain ⟨text, htext⟩ := dispatchPass_fails ip target loco hfails
      cases htext.symm.trans hlast
      refine .failure text ⟨r, by rw [hrs]; simp, hfails⟩ ?_
      obtain ⟨e, rfl, -⟩ := hfails
      exact hanswers
    · obtain ⟨sent, hsent⟩ := heardIn_sent ip target r
      have hstamp : (heardIn ip target r).filterMap (fun x => (answerOf loco x.2).map fun a => (x.1, a)) =
          ((heardIn ip target r).filterMap fun x => answerOf loco x.2).map fun a => (sent, a) := by
        rw [List.map_filterMap]
        exact List.filterMap_congr fun x hx => by rw [hsent x hx]
      rw [dispatchPass_eq hfails] at hlast
      cases has : (heardIn ip target r).filterMap fun x => answerOf loco x.2 with
      | nil =>
        rw [has] at hlast
        cases hlast
      | cons a as =>
        rw [has] at hlast hstamp
        cases hlast
        refine .answer sent a (as.map fun a => (sent, a)) ?_ (hanswers.trans hstamp) fun x hx => ?_
        · rw [hrs]
          exact List.forall_mem_append.2 ⟨hsocket, by simpa using hfails⟩
        · obtain ⟨a', -, rfl⟩ := List.mem_map.1 hx
          rfl

/-! ### The whole dispatch -/

private theorem serialNumberRequest_ne : serialNumberRequest ≠ dispatchAddrRequest loco :=
  fun h => absurd (show 4 = 6 from congrArg List.length h) (by decide)

private theorem logoffRequest_ne : logoffRequest ≠ dispatchAddrRequest loco :=
  fun h => absurd (show 4 = 6 from congrArg List.length h) (by decide)

private theorem notRequest_of_ne {packet : List UInt8} {a : Addr} {t : Nat} (h : packet ≠ dispatchAddrRequest loco) :
    notRequest target loco ⟨.sendTo packet a, t⟩ = true := by
  simp [notRequest, h]

private theorem notRequest_poll {tp : List (UdpEvent Addr)} (h : ∀ e ∈ tp, e.1 = .now ∨ e.1 = .recvFrom) :
    ∀ e ∈ tp, notRequest target loco e = true := by
  rintro ⟨o, r⟩ he
  rcases h _ he with rfl | rfl <;> rfl

omit [DecidableEq Addr] in
/-- After the loops the code logs off, or the socket has failed. -/
theorem run_leave {r r' : Except DispatchError DispatchOutcome} {tail : List (UdpEvent Addr)}
    (h : Prog.Run (leave target r) tail (some r')) :
    r' = r ∧ (tail = [] ∨ ∃ t, tail = [⟨.sendTo logoffRequest target, t⟩]) := by
  unfold leave at h
  split at h
  · obtain ⟨rfl, hr⟩ := Prog.run_ret.1 h
    exact ⟨Option.some.inj hr, .inl rfl⟩
  · obtain ⟨t, tail', rfl, h'⟩ := Prog.run_op.1 h
    obtain ⟨rfl, hr⟩ := Prog.run_ret.1 h'
    exact ⟨Option.some.inj hr, .inr ⟨t, rfl⟩⟩

omit [DecidableEq Addr] in
private theorem not_run_leave_none (r : Except DispatchError DispatchOutcome) (tail : List (UdpEvent Addr)) :
    ¬ Prog.Run (leave target r) tail none := by
  intro h
  unfold leave at h
  split at h
  · cases h
  · obtain ⟨t, tail', rfl, h'⟩ := Prog.run_op.1 h
    cases h'

variable [ToString Addr]

variable (target) in
/-- What is returned when the second loop is over. -/
def concluded (alive : Bool) : Except (Except DispatchError DispatchOutcome) Unit → Except DispatchError DispatchOutcome
  | .error r => r
  | .ok () => if alive then .ok .noAck else .error (.unreachable (toString target))

variable (ip target loco) in
/-- How a dispatch can go. -/
inductive Dispatched (tr : List (UdpEvent Addr)) : Except DispatchError DispatchOutcome → Prop
  | unset (e : IoError) (trace : tr = [⟨.setReadTimeout 200, .error e⟩]) : Dispatched tr (.error (.io e.message))
  | unasked (e : DispatchError) (none : ∀ x ∈ tr, notRequest target loco x = true)
      (ended : (e = .unknownCommand ∧ ∃ x ∈ heard ip target tr, isUnknownCommand x.2 = true) ∨
        (∃ text, e = .io text) ∧ ∃ r ∈ arrivals tr, Fails r) : Dispatched tr (.error e)
  | asked (before after : List (UdpEvent Addr)) (t : Nat) (alive : Bool)
      (out : Except (Except DispatchError DispatchOutcome) Unit)
      (trace : tr = before ++ ⟨.sendTo (dispatchAddrRequest loco) target, t⟩ :: after)
      (timeout : ∀ millis e, ⟨.setReadTimeout millis, .error e⟩ ∉ tr)
      (none : ∀ x ∈ before, notRequest target loco x = true)
      (probed : Probed ip target before alive)
      (awaited : Awaited ip target loco after out) :
      Dispatched tr (concluded target alive out)

private theorem run_awaitDispatch {passes : Nat} {alive : Bool} {tr : List (UdpEvent Addr)}
    {r : Except DispatchError DispatchOutcome} (h : Prog.Run (awaitDispatch ip target loco passes alive) tr (some r)) :
    ∃ t after out, tr = ⟨.sendTo (dispatchAddrRequest loco) target, t⟩ :: after ∧
      (∀ millis e, ⟨.setReadTimeout millis, .error e⟩ ∉ after) ∧
      Awaited ip target loco after out ∧
      r = concluded target alive out := by
  obtain ⟨t, t₁, rfl, h₁⟩ := Prog.run_op.1 h
  obtain ⟨start, t₂, rfl, h₂⟩ := Prog.run_op.1 h₁
  change Prog.Run (pollUntil (start + DISPATCH_TIMEOUT) (dispatchPass ip target loco) passes () >>= _) _ _ at h₂
  obtain ⟨td, tail, out, rfl, hpoll, hleave⟩ := Prog.run_bind.1 h₂
  cases out with
  | none => cases hleave
  | some out =>
    have hend : Prog.Run (leave target (concluded target alive out)) tail (some r) := by
      cases out with
      | ok u => exact hleave
      | error e => exact hleave
    obtain ⟨rfl, htail⟩ := run_leave hend
    have hquiet : arrivals tail = [] := by rcases htail with rfl | ⟨t', rfl⟩ <;> rfl
    have harrivals : arrivals (⟨.now, start⟩ :: (td ++ tail)) = arrivals td := by
      show arrivals (td ++ tail) = _
      rw [arrivals_append, hquiet, List.append_nil]
    refine ⟨t, _, out, rfl, fun millis e hmem => ?_, (run_await hpoll).congr harrivals, rfl⟩
    rcases List.mem_cons.1 hmem with hmem | hmem
    · cases hmem
    rcases List.mem_append.1 hmem with hmem | hmem
    · rcases run_pollUntil_events hpoll _ hmem with heq | heq <;> cases heq
    · rcases htail with rfl | ⟨t', rfl⟩
      · exact absurd hmem List.not_mem_nil
      · cases List.mem_singleton.1 hmem

private theorem run_dispatchAddr {probes passes : Nat} {tr : List (UdpEvent Addr)}
    {r : Except DispatchError DispatchOutcome} (h : Prog.Run (dispatchAddr ip target loco probes passes) tr (some r)) :
    Dispatched ip target loco tr r := by
  obtain ⟨set, t₁, rfl, h₁⟩ := Prog.run_op.1 h
  cases set with
  | error e =>
    obtain ⟨rfl, hr⟩ := Prog.run_ret.1 h₁
    cases hr
    exact .unset e rfl
  | ok u =>
    obtain ⟨sent, t₂, rfl, h₂⟩ := Prog.run_op.1 h₁
    obtain ⟨start, t₃, rfl, h₃⟩ := Prog.run_op.1 h₂
    change Prog.Run (pollUntil (start + SERIAL_PROBE_TIMEOUT) (probePass ip target) probes false >>= _) _ _ at h₃
    obtain ⟨tp, rest, out, rfl, hpoll, hrest⟩ := Prog.run_bind.1 h₃
    have hevents := run_pollUntil_events hpoll
    have hopening : ∀ tl : List (UdpEvent Addr), (∀ x ∈ tl, notRequest target loco x = true) →
        ∀ x ∈ (⟨.setReadTimeout 200, .ok u⟩ :: ⟨.sendTo serialNumberRequest target, sent⟩ :: ⟨.now, start⟩ :: tl :
          List (UdpEvent Addr)), notRequest target loco x = true := by
      intro tl htl
      refine List.forall_mem_cons.2 ⟨rfl, List.forall_mem_cons.2 ⟨?_, List.forall_mem_cons.2 ⟨rfl, htl⟩⟩⟩
      exact notRequest_of_ne serialNumberRequest_ne
    have hasked : ∀ alive, Probed ip target tp alive →
        Prog.Run (awaitDispatch ip target loco passes alive) rest (some r) →
        Dispatched ip target loco
          (⟨.setReadTimeout 200, .ok u⟩ :: ⟨.sendTo serialNumberRequest target, sent⟩ :: ⟨.now, start⟩ :: (tp ++ rest)) r := by
      intro alive hprobed hrun
      obtain ⟨t, after, out, rfl, hset, hawaited, rfl⟩ := run_awaitDispatch hrun
      refine .asked _ after t alive out rfl (fun millis e hmem => ?_)
        (hopening tp (notRequest_poll hevents)) ⟨hprobed.1, hprobed.2, hprobed.3⟩ hawaited
      simp only [List.mem_cons, List.mem_append] at hmem
      rcases hmem with hmem | hmem | hmem | hmem | hmem | hmem
      · cases hmem
      · cases hmem
      · cases hmem
      · rcases hevents _ hmem with heq | heq <;> cases heq
      · cases hmem
      · exact hset millis e hmem
    cases out with
    | none => cases hrest
    | some out =>
      have hprobe := run_probe hpoll
      cases out with
      | ok alive => exact hasked alive hprobe hrest
      | error e =>
        cases e with
        | ok u => exact hasked true hprobe hrest
        | error e =>
          obtain ⟨rfl, htail⟩ := run_leave hrest
          have hnone : ∀ x ∈ tp ++ rest, notRequest target loco x = true := by
            refine List.forall_mem_append.2 ⟨notRequest_poll hevents, ?_⟩
            rcases htail with rfl | ⟨t', rfl⟩
            · exact nofun
            · simpa using notRequest_of_ne logoffRequest_ne
          have harrivals : arrivals (tp ++ rest) = arrivals tp := by
            rw [arrivals_append]
            rcases htail with rfl | ⟨t', rfl⟩ <;> exact List.append_nil _
          have hheard : heard ip target (⟨.setReadTimeout 200, .ok u⟩ :: ⟨.sendTo serialNumberRequest target, sent⟩ ::
              ⟨.now, start⟩ :: (tp ++ rest)) = heard ip target tp := congrArg (List.flatMap (heardIn ip target)) harrivals
          refine .unasked e (hopening _ hnone) ?_
          rw [hheard]
          exact hprobe.imp_right fun ⟨htext, r, hr, hfails⟩ => ⟨htext, r, harrivals.symm ▸ hr, hfails⟩

/-- A dispatch that has used up the passes of a loop has never seen the clock at the deadline of that loop. -/
theorem run_dispatchAddr_none {probes passes : Nat} {tr : List (UdpEvent Addr)}
    (h : Prog.Run (dispatchAddr ip target loco probes passes) tr none) :
    ∃ earlier start ticks, clock tr = earlier ++ start :: ticks ∧
      (ticks.length = probes ∧ (∀ t ∈ ticks, t < start + SERIAL_PROBE_TIMEOUT) ∨
        ticks.length = passes ∧ ∀ t ∈ ticks, t < start + DISPATCH_TIMEOUT) := by
  obtain ⟨set, t₁, rfl, h₁⟩ := Prog.run_op.1 h
  cases set with
  | error e => cases h₁
  | ok u =>
    obtain ⟨sent, t₂, rfl, h₂⟩ := Prog.run_op.1 h₁
    obtain ⟨start, t₃, rfl, h₃⟩ := Prog.run_op.1 h₂
    change Prog.Run (pollUntil (start + SERIAL_PROBE_TIMEOUT) (probePass ip target) probes false >>= _) _ _ at h₃
    obtain ⟨tp, rest, out, rfl, hpoll, hrest⟩ := Prog.run_bind.1 h₃
    have hasked : ∀ alive, Prog.Run (awaitDispatch ip target loco passes alive) rest none →
        ∃ start ticks, clock rest = start :: ticks ∧ ticks.length = passes ∧
          ∀ t ∈ ticks, t < start + DISPATCH_TIMEOUT := by
      intro alive hrun
      obtain ⟨t, t₄, rfl, h₄⟩ := Prog.run_op.1 hrun
      obtain ⟨start, t₅, rfl, h₅⟩ := Prog.run_op.1 h₄
      change Prog.Run (pollUntil (start + DISPATCH_TIMEOUT) (dispatchPass ip target loco) passes () >>= _) _ _ at h₅
      obtain ⟨td, tail, out, rfl, hpoll, hleave⟩ := Prog.run_bind.1 h₅
      cases out with
      | none =>
        cases hleave
        rw [List.append_nil]
        exact ⟨start, clock td, rfl, run_pollUntil_none hpoll⟩
      | some out => cases out with
        | ok u => exact absurd hleave (not_run_leave_none _ _)
        | error r => exact absurd hleave (not_run_leave_none _ _)
    have hlater : (∃ start ticks, clock rest = start :: ticks ∧ ticks.length = passes ∧
        ∀ t ∈ ticks, t < start + DISPATCH_TIMEOUT) → ∃ earlier start ticks,
          clock (tp ++ rest) = earlier ++ start :: ticks ∧
            ticks.length = passes ∧ ∀ t ∈ ticks, t < start + DISPATCH_TIMEOUT := by
      rintro ⟨start, ticks, hticks, hend⟩
      exact ⟨clock tp, start, ticks, by rw [clock_append, hticks], hend⟩
    cases out with
    | none =>
      cases hrest
      rw [List.append_nil]
      exact ⟨[], start, clock tp, rfl, .inl (run_pollUntil_none hpoll)⟩
    | some out =>
      have hagain : (∃ alive, Prog.Run (awaitDispatch ip target loco passes alive) rest none) := by
        cases out with
        | ok alive => exact ⟨alive, hrest⟩
        | error e =>
          cases e with
          | ok u => exact ⟨true, hrest⟩
          | error e => exact absurd hrest (not_run_leave_none _ _)
      obtain ⟨alive, hrun⟩ := hagain
      obtain ⟨earlier, start', ticks, hticks, hend⟩ := hlater (hasked alive hrun)
      exact ⟨start :: earlier, start', ticks, congrArg (start :: ·) hticks, .inr hend⟩

omit [ToString Addr]

private theorem sinceRequest_of_none {tr : List (UdpEvent Addr)} (h : ∀ x ∈ tr, notRequest target loco x = true) :
    sinceRequest target loco tr = [] := List.dropWhile_eq_nil_iff.2 h

private theorem answersSince_of_none {tr : List (UdpEvent Addr)} (h : ∀ x ∈ tr, notRequest target loco x = true) :
    answersSince ip target loco tr = [] := by
  rw [answersSince, sinceRequest_of_none h]
  rfl

section Asked

variable {before after : List (UdpEvent Addr)} {t : Nat} (h : ∀ x ∈ before, notRequest target loco x = true)

include h

private theorem beforeRequest_asked :
    beforeRequest target loco (before ++ ⟨.sendTo (dispatchAddrRequest loco) target, t⟩ :: after) = before := by
  rw [beforeRequest, List.takeWhile_append_of_pos h, List.takeWhile_cons_of_neg (by simp [notRequest]),
    List.append_nil]

private theorem sinceRequest_asked :
    sinceRequest target loco (before ++ ⟨.sendTo (dispatchAddrRequest loco) target, t⟩ :: after) =
      ⟨.sendTo (dispatchAddrRequest loco) target, t⟩ :: after := by
  rw [sinceRequest, List.dropWhile_append_of_pos h, List.dropWhile_cons_of_neg (by simp [notRequest])]

private theorem answersSince_asked :
    answersSince ip target loco (before ++ ⟨.sendTo (dispatchAddrRequest loco) target, t⟩ :: after) =
      (answers ip target loco after).map fun x => (decide (t ≤ x.1), x.2) := by
  rw [answersSince, requestedAt, sinceRequest_asked h]
  rfl

end Asked

omit [DecidableEq Addr] in
private theorem heard_asked (before after : List (UdpEvent Addr)) (t : Nat) :
    heard ip target (before ++ ⟨.sendTo (dispatchAddrRequest loco) target, t⟩ :: after) =
      heard ip target before ++ heard ip target after := by
  rw [heard, arrivals_append, List.flatMap_append]
  rfl

variable [ToString Addr]

/-- Nothing is wrong with a dispatch that has not asked. -/
theorem table_iff_of_none {tr : List (UdpEvent Addr)} {e : DispatchError}
    (hnone : ∀ x ∈ tr, notRequest target loco x = true)
    (hended : (e = .unknownCommand ∧ ∃ x ∈ heard ip target tr, isUnknownCommand x.2 = true) ∨
      (∃ text, e = .io text) ∧ SocketFails tr) :
    OutcomeTable ip target loco tr (.error e) ↔ ¬ LateSerial ip target loco tr ∧ ¬ StaleReply ip target loco tr := by
  refine ⟨fun _ => ⟨?_, ?_⟩, fun _ => ⟨nofun, ?_, ?_, ?_⟩⟩
  · rintro ⟨-, -, -, x, hx, -⟩
    rw [sinceRequest_of_none hnone] at hx
    exact absurd hx List.not_mem_nil
  · rintro ⟨a, ha, -⟩
    rw [answersSince_of_none hnone] at ha
    cases ha
  · intro hrejected
    rcases hended with ⟨rfl, -⟩ | ⟨⟨text, rfl⟩, -⟩ <;> cases hrejected
  · intro hunknown
    rcases hended with ⟨-, hx⟩ | ⟨⟨text, rfl⟩, -⟩
    · exact hx
    · cases hunknown
  · intro _ hknown hsocket
    rcases hended with ⟨-, x, hx, hunknown⟩ | ⟨-, hfails⟩
    · exact absurd (hunknown.symm.trans (hknown x hx)) nofun
    · exact absurd hfails hsocket

section Asked

variable {before after : List (UdpEvent Addr)} {t : Nat} {alive : Bool}
  (hnone : ∀ x ∈ before, notRequest target loco x = true) (hprobed : Probed ip target before alive)

include hnone hprobed

/-- Nothing has decided: what counts is when the Z21 has told its serial number. -/
theorem table_iff_of_silence (hanswers : answers ip target loco after = []) :
    let tr := before ++ ⟨.sendTo (dispatchAddrRequest loco) target, t⟩ :: after
    ¬ SocketFails tr →
    (OutcomeTable ip target loco tr (concluded target alive (.ok ())) ↔
      ¬ LateSerial ip target loco tr ∧ ¬ StaleReply ip target loco tr) := by
  intro tr hsocket
  have hsince : answersSince ip target loco tr = [] := by
    rw [answersSince_asked hnone, hanswers]
    rfl
  have hunknown : ∀ x ∈ heard ip target tr, isUnknownCommand x.2 = false := by
    intro x hx
    rw [heard_asked] at hx
    rcases List.mem_append.1 hx with hx | hx
    · exact hprobed.unknownCommand x hx
    · have hanswer := List.filterMap_eq_nil_iff.1 hanswers x hx
      rw [← Bool.not_eq_true]
      intro hunknown
      have hknown : answerOf loco x.2 = some .unknownCommand := answerOf_eq_unknownCommand_iff.2 hunknown
      rw [hknown] at hanswer
      cases hanswer
  have hquiet : (∀ x ∈ heard ip target (beforeRequest target loco tr), isSerial x.2 = false) ↔ alive = false := by
    rw [beforeRequest_asked hnone, ← Bool.not_eq_true, hprobed.serial]
    simp
  have hlate : LateSerial ip target loco tr ↔ alive = false ∧ ∃ x ∈ heard ip target tr, isSerial x.2 = true := by
    constructor
    · rintro ⟨-, -, hbefore, x, hx, hserial⟩
      rw [sinceRequest_asked hnone] at hx
      exact ⟨hquiet.1 hbefore, x, by rw [heard_asked]; exact List.mem_append_right _ hx, hserial⟩
    · rintro ⟨halive, x, hx, hserial⟩
      have hbefore := hquiet.2 halive
      refine ⟨hsince, hsocket, hbefore, x, ?_, hserial⟩
      rw [beforeRequest_asked hnone] at hbefore
      rw [heard_asked] at hx
      rw [sinceRequest_asked hnone]
      rcases List.mem_append.1 hx with hx | hx
      · exact absurd (hserial.symm.trans (hbefore x hx)) nofun
      · exact hx
  constructor
  · refine fun htable => ⟨fun h => ?_, fun ⟨a, ha, _⟩ => by rw [hsince] at ha; cases ha⟩
    obtain ⟨rfl, hserial⟩ := hlate.1 h
    have hnoAck := (htable.silent (by rw [hsince]; exact nofun) hunknown hsocket).1 hserial
    cases hnoAck
  · rintro ⟨hno, -⟩
    cases alive with
    | true =>
      refine ⟨nofun, nofun, nofun, fun _ _ _ => ⟨fun _ => rfl, fun hall => ?_⟩⟩
      obtain ⟨x, hx, hserial⟩ := hprobed.serial.1 rfl
      exact absurd (hserial.symm.trans (hall x (by rw [heard_asked]; exact List.mem_append_left _ hx))) nofun
    | false =>
      exact ⟨nofun, nofun, nofun, fun _ _ _ =>
        ⟨fun hserial => absurd (hlate.2 ⟨rfl, hserial⟩) hno, fun _ => rfl⟩⟩

omit hprobed in
/-- An answer has decided: what counts is when it was sent. -/
theorem table_iff_of_answer {sent : Nat} {a : Answer} {as : List (Nat × Answer)}
    (hfirst : answers ip target loco after = (sent, a) :: as) (hsent : ∀ x ∈ as, x.1 = sent) :
    let tr := before ++ ⟨.sendTo (dispatchAddrRequest loco) target, t⟩ :: after
    OutcomeTable ip target loco tr a.result ↔ ¬ LateSerial ip target loco tr ∧ ¬ StaleReply ip target loco tr := by
  intro tr
  have hsince : answersSince ip target loco tr =
      (decide (t ≤ sent), a) :: as.map fun x => (decide (t ≤ x.1), x.2) := by
    rw [answersSince_asked hnone, hfirst]
    rfl
  have hfresh : ∀ x ∈ answersSince ip target loco tr, x.1 = decide (t ≤ sent) := by
    rw [hsince]
    refine List.forall_mem_cons.2 ⟨rfl, fun x hx => ?_⟩
    obtain ⟨y, hy, rfl⟩ := List.mem_map.1 hx
    rw [hsent y hy]
  have hhead : (decide (t ≤ sent), a) ∈ answersSince ip target loco tr := by
    rw [hsince]
    exact List.mem_cons_self ..
  obtain ⟨x, hx, hxa⟩ : ∃ x ∈ heard ip target tr, answerOf loco x.2 = some a := by
    have hmem : (sent, a) ∈ answers ip target loco after := by
      rw [hfirst]
      exact List.mem_cons_self ..
    obtain ⟨x, hx, hxa⟩ := List.mem_filterMap.1 hmem
    obtain ⟨a', ha', heq⟩ := Option.map_eq_some_iff.1 hxa
    cases heq
    exact ⟨x, by rw [heard_asked]; exact List.mem_append_right _ hx, ha'⟩
  constructor
  · refine fun htable => ⟨fun h => ?_, ?_⟩
    · rw [LateSerial, hsince] at h
      cases h.1
    · rintro ⟨a', ha', hne⟩
      rw [hsince] at ha'
      obtain ⟨hstale, rfl⟩ := Prod.mk.inj (Option.some.inj ha')
      cases a with
      | unknownCommand => exact hne rfl
      | rejected => exact absurd ((hfresh _ (htable.rejected rfl)).trans hstale) nofun
      | slot n =>
        obtain ⟨-, xs, ys, heq, -⟩ := htable.slot n rfl
        have hmem : (true, Answer.slot n) ∈ answersSince ip target loco tr := by
          rw [heq]
          simp
        exact absurd ((hfresh _ hmem).trans hstale) nofun
  · rintro ⟨-, hstale⟩
    have hnew : a ≠ .unknownCommand → decide (t ≤ sent) = true := by
      intro hne
      rw [← Bool.not_eq_false]
      exact fun hfalse => hstale ⟨a, by rw [hsince, hfalse]; rfl, hne⟩
    refine ⟨fun n hn => ?_, fun hrejected => ?_, fun hunknown => ?_, fun hall hknown => ?_⟩
    · cases a with
      | unknownCommand => cases hn
      | rejected => cases hn
      | slot m =>
        cases hn
        rw [hsince, hnew nofun]
        exact ⟨slot_pos hxa, [], _, rfl, nofun⟩
    · cases a with
      | unknownCommand => cases hrejected
      | rejected => exact hnew nofun ▸ hhead
      | slot m => cases hrejected
    · cases a with
      | unknownCommand => exact ⟨x, hx, answerOf_eq_unknownCommand_iff.1 hxa⟩
      | rejected => cases hunknown
      | slot m => cases hunknown
    · have hold : decide (t ≤ sent) = false := hall _ hhead
      by_cases hne : a = .unknownCommand
      · subst hne
        exact absurd ((answerOf_eq_unknownCommand_iff.1 hxa).symm.trans (hknown x hx)) nofun
      · exact absurd ((hnew hne).symm.trans hold) nofun

omit hprobed in
/-- An error of the socket has decided. -/
theorem table_iff_of_failure {text : String} (hanswers : answers ip target loco after = []) :
    let tr := before ++ ⟨.sendTo (dispatchAddrRequest loco) target, t⟩ :: after
    SocketFails tr →
    (OutcomeTable ip target loco tr (.error (.io text)) ↔
      ¬ LateSerial ip target loco tr ∧ ¬ StaleReply ip target loco tr) := by
  intro tr hsocket
  refine ⟨fun _ => ⟨fun h => h.2.1 hsocket, fun ⟨a, ha, _⟩ => ?_⟩, fun _ =>
    ⟨nofun, nofun, nofun, fun _ _ hno => absurd hsocket hno⟩⟩
  rw [answersSince_asked hnone, hanswers] at ha
  cases ha

end Asked

/-- The outcome of a dispatch is the one of the table, if and only if no serial number comes late and no reply is stale. -/
theorem outcomeTable_iff {probes passes : Nat} {tr : List (UdpEvent Addr)} {r : Except DispatchError DispatchOutcome}
    (h : Prog.Run (dispatchAddr ip target loco probes passes) tr (some r)) :
    OutcomeTable ip target loco tr r ↔ ¬ LateSerial ip target loco tr ∧ ¬ StaleReply ip target loco tr := by
  cases run_dispatchAddr h with
  | unset e trace =>
    subst trace
    refine table_iff_of_none (by simp [notRequest]) (.inr ⟨⟨_, rfl⟩, .inl ⟨200, e, List.mem_singleton_self _⟩⟩)
  | unasked e none ended => exact table_iff_of_none none (ended.imp_right fun ⟨htext, hfails⟩ => ⟨htext, .inr hfails⟩)
  | asked before after t alive out trace timeout none probed awaited =>
    subst trace
    have hsocket : SocketFails (before ++ ⟨.sendTo (dispatchAddrRequest loco) target, t⟩ :: after) ↔
        ∃ r ∈ arrivals after, Fails r := by
      unfold SocketFails
      rw [arrivals_append]
      constructor
      · rintro (⟨millis, e, hmem⟩ | ⟨r, hr, hfails⟩)
        · exact absurd hmem (timeout millis e)
        · rcases List.mem_append.1 hr with hr | hr
          · exact absurd hfails (probed.socket r hr)
          · exact ⟨r, hr, hfails⟩
      · rintro ⟨r, hr, hfails⟩
        exact .inr ⟨r, List.mem_append_right _ hr, hfails⟩
    cases awaited with
    | silence socket nil =>
      exact table_iff_of_silence none probed nil (hsocket.not.2 fun ⟨r, hr, hfails⟩ => socket r hr hfails)
    | failure text socket nil => exact table_iff_of_failure none nil (hsocket.2 socket)
    | answer sent a as socket first sent_eq => exact table_iff_of_answer none first sent_eq

end Table

/-! ### A command station that answers -/

private def station : SocketAddrV4 := ⟨⟨192, 168, 0, 111⟩, 21105⟩

/-- A datagram of the station with one record. -/
private def said (header : UInt16) (data : List UInt8) (sent : Nat) : Except IoError (Datagram SocketAddrV4) :=
  .ok ⟨station, encode header data, sent⟩

private theorem heardIn_said {header : UInt16} {data : List UInt8} {sent : Nat} (h : data.length + 4 < 65536) :
    heardIn SocketAddrV4.ip station (said header data sent) = [(sent, ⟨header, data⟩)] := by
  simp [said, heardIn, parseRecords_encode_single header data h]

private theorem heard_said {tr : List (UdpEvent SocketAddrV4)} {header : UInt16} {data : List UInt8} {sent : Nat}
    (h : arrivals tr = [said header data sent]) (hlen : data.length + 4 < 65536) :
    heard SocketAddrV4.ip station tr = [(sent, ⟨header, data⟩)] := by
  rw [heard, h, List.flatMap_singleton, heardIn_said hlen]

private theorem not_fails_said {header : UInt16} {data : List UInt8} {sent : Nat} : ¬ Fails (said header data sent) :=
  not_fails_ok

private def serial (sent : Nat) : Except IoError (Datagram SocketAddrV4) :=
  said HEADER_GET_SERIAL_NUMBER [0x78, 0x56, 0x34, 0x12] sent

private def quiet : Except IoError (Datagram SocketAddrV4) := .error ⟨.wouldBlock, "Resource temporarily unavailable"⟩

/-- The events before the request, in which the station is asked for its serial number. -/
private def probing (tp : List (UdpEvent SocketAddrV4)) : List (UdpEvent SocketAddrV4) :=
  ⟨.setReadTimeout 200, .ok ()⟩ :: ⟨.sendTo serialNumberRequest station, 0⟩ :: ⟨.now, 0⟩ :: tp

private def slotReply : Except IoError (Datagram SocketAddrV4) := said HEADER_LOCONET_DISPATCH_ADDR [42, 0, 3] 30

private def prompt : List (UdpEvent SocketAddrV4) :=
  probing [⟨.now, 0⟩, ⟨.recvFrom, serial 10⟩] ++ ⟨.sendTo (dispatchAddrRequest 42) station, 20⟩ ::
    [⟨.now, 20⟩, ⟨.now, 20⟩, ⟨.recvFrom, slotReply⟩, ⟨.sendTo logoffRequest station, 40⟩]

private theorem run_prompt :
    Prog.Run (dispatchAddr SocketAddrV4.ip station 42 1 1) prompt (some (.ok (.slot 3))) := by
  have hprobe : probePass SocketAddrV4.ip station false (serial 10) = .error (.ok ()) := by
    rw [serial, probePass_eq not_fails_said, heardIn_said (by decide)]
    rfl
  have hdispatch : dispatchPass SocketAddrV4.ip station 42 () slotReply = .error (.ok (.slot 3)) := by
    rw [slotReply, dispatchPass_eq not_fails_said, heardIn_said (by decide)]
    rfl
  refine .op (.op (.op ?_))
  show Prog.Run (pollUntil (0 + SERIAL_PROBE_TIMEOUT) (probePass SocketAddrV4.ip station) 1 false >>= _) _ _
  refine Prog.run_bind.2 ⟨_, _, _, rfl, run_pollUntil_leave (by decide) hprobe, .op (.op ?_)⟩
  show Prog.Run (pollUntil (20 + DISPATCH_TIMEOUT) (dispatchPass SocketAddrV4.ip station 42) 1 () >>= _) _ _
  exact Prog.run_bind.2 ⟨_, _, _, rfl, run_pollUntil_leave (by decide) hdispatch, .op (.ret _)⟩

private theorem notRequest_probing {tp : List (UdpEvent SocketAddrV4)} (h : ∀ e ∈ tp, e.1 = .now ∨ e.1 = .recvFrom) :
    ∀ x ∈ probing tp, notRequest station 42 x = true :=
  List.forall_mem_cons.2 ⟨rfl, List.forall_mem_cons.2
    ⟨notRequest_of_ne serialNumberRequest_ne, List.forall_mem_cons.2 ⟨rfl, notRequest_poll h⟩⟩⟩

/-- A Z21 that answers at once. -/
theorem prompt_table : ∃ tr r, Prog.Run (dispatchAddr SocketAddrV4.ip station 42 1 1) tr (some r) ∧
    OutcomeTable SocketAddrV4.ip station 42 tr r := by
  have hnone : ∀ x ∈ probing [⟨.now, 0⟩, ⟨.recvFrom, serial 10⟩], notRequest station 42 x = true :=
    notRequest_probing (by simp)
  refine ⟨prompt, _, run_prompt, (outcomeTable_iff run_prompt).2 ⟨?_, ?_⟩⟩
  · rintro ⟨-, -, hbefore, -⟩
    rw [prompt, beforeRequest_asked hnone] at hbefore
    rw [heard_said (show arrivals (probing _) = [serial 10] from rfl) (by decide)] at hbefore
    exact absurd (hbefore _ (List.mem_singleton_self _)) (by decide)
  · rintro ⟨a, ha, -⟩
    rw [prompt, answersSince_asked hnone, answers, heard_said (show arrivals _ = [slotReply] from rfl) (by decide)] at ha
    cases ha

/-- The serial number comes 100 ms after the probe. -/
private def late : List (UdpEvent SocketAddrV4) :=
  probing [⟨.now, 0⟩, ⟨.recvFrom, quiet⟩, ⟨.now, 500⟩] ++ ⟨.sendTo (dispatchAddrRequest 42) station, 500⟩ ::
    [⟨.now, 500⟩, ⟨.now, 500⟩, ⟨.recvFrom, serial 600⟩, ⟨.now, 2500⟩, ⟨.sendTo logoffRequest station, 2500⟩]

private theorem run_late : Prog.Run (dispatchAddr SocketAddrV4.ip station 42 2 2) late
    (some (.error (.unreachable (toString station)))) := by
  have hdispatch : dispatchPass SocketAddrV4.ip station 42 () (serial 600) = .ok () := by
    rw [serial, dispatchPass_eq not_fails_said, heardIn_said (by decide)]
    rfl
  refine .op (.op (.op ?_))
  show Prog.Run (pollUntil (0 + SERIAL_PROBE_TIMEOUT) (probePass SocketAddrV4.ip station) 2 false >>= _) _ _
  refine Prog.run_bind.2 ⟨_, _, _, rfl, run_pollUntil_step (by decide) rfl (run_pollUntil_done (by decide)), .op (.op ?_)⟩
  show Prog.Run (pollUntil (500 + DISPATCH_TIMEOUT) (dispatchPass SocketAddrV4.ip station 42) 2 () >>= _) _ _
  refine Prog.run_bind.2 ⟨_, _, _, rfl, run_pollUntil_step (by decide) hdispatch (run_pollUntil_done (by decide)), ?_⟩
  exact .op (.ret _)

/-- A Z21 that tells its serial number after the probe is taken for unreachable. -/
theorem late_serial_unreachable : ∃ tr r, Prog.Run (dispatchAddr SocketAddrV4.ip station 42 2 2) tr (some r) ∧
    ¬ OutcomeTable SocketAddrV4.ip station 42 tr r := by
  have hnone : ∀ x ∈ probing [⟨.now, 0⟩, ⟨.recvFrom, quiet⟩, ⟨.now, 500⟩], notRequest station 42 x = true :=
    notRequest_probing (by simp)
  have hheard : heard SocketAddrV4.ip station late = [(600, ⟨HEADER_GET_SERIAL_NUMBER, [0x78, 0x56, 0x34, 0x12]⟩)] := by
    show heard SocketAddrV4.ip station [⟨.recvFrom, serial 600⟩] = _
    exact heard_said rfl (by decide)
  have hsince : answersSince SocketAddrV4.ip station 42 late = [] := by
    rw [late, answersSince_asked hnone, answers, heard_said (show arrivals _ = [serial 600] from rfl) (by decide)]
    rfl
  refine ⟨late, _, run_late, fun htable => ?_⟩
  have hnoAck := htable.silent (by rw [hsince]; exact nofun) (by rw [hheard]; decide) ?_
  · cases hnoAck.1 ⟨_, by rw [hheard]; exact List.mem_singleton_self _, rfl⟩
  · rintro (⟨millis, e, hmem⟩ | ⟨r, hr, e, he, hquiet⟩)
    · simp [late, probing] at hmem
    · have hr' : r ∈ [quiet, serial 600] := hr
      simp only [List.mem_cons, List.not_mem_nil, or_false] at hr'
      rcases hr' with rfl | rfl
      · cases he
        exact absurd hquiet (by decide)
      · cases he

end WirelessProgrammer.Z21
