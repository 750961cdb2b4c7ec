import WirelessProgrammer.Daemon.RadioTurns
import WirelessProgrammer.Daemon.RadioHeld

/-!
# Sessions undisturbed

No session is disturbed as long as three things do not happen: an operation takes the mutex although a session has been
parked, the mutex given back in it, since the operation has found `radio_held` clear; a hold is dropped, and the flag
cleared, while the hold of a job is alive; a request gives the mutex back in a session that it has not released.
-/

namespace WirelessProgrammer

open Effect

/-! ### Turns that fit together -/

/-- How the turns of the operations fit together: who holds the mutex, what the worker's hold and its session cover, and
which requests have seen the flag too early. -/
structure TurnsInv (u : Nat → Turn) (mutex : Option Nat) (held working : Bool) (overtaken : Nat → Prop) : Prop where
  mutex (n : Nat) : (u n).locked = true ↔ mutex = some n
  covered {n : Nat} (hw : (u n).worker = true) (h : (u n).locked = true ∨ (u n).session = true) : (u n).held = true
  running {n : Nat} (hw : (u n).worker = true) (h : (u n).held = true) : (u n).returned = false
  flag {n : Nat} (hw : (u n).worker = true) (h : (u n).held = true) : held = true
  working {n : Nat} (hw : (u n).worker = true) (h : (u n).returned = false) : working = true
  sole {m n : Nat} (hm : (u m).worker = true) (hn : (u n).worker = true) (hm' : (u m).returned = false)
    (hn' : (u n).returned = false) : m = n
  parked {n : Nat} (h : (u n).Parked) : (u n).worker = true
  early {m n : Nat} (hne : m ≠ n) (hm : (u m).Parked) (hn : (u n).admitted = true) : overtaken n
  exclusive {m n : Nat} (hs : (u n).session = true) (hl : (u m).locked = true) : m = n

namespace TurnsInv

variable {u : Nat → Turn} {mutex : Option Nat} {held working : Bool} {overtaken overtaken' : Nat → Prop} {n : Nat}

private theorem lock (h : TurnsInv u none held working overtaken) (hw : (u n).worker = true → (u n).held = true)
    (hr : (u n).worker = false → (u n).admitted = true) (hfresh : ¬ overtaken n) :
    TurnsInv (Function.update u n { u n with locked := true }) (some n) held working overtaken := by
  have hfree (m : Nat) : (u m).locked = false := by
    have := h.mutex m
    grind -linarith
  have hothers {m : Nat} (hs : (u m).session = true) : m = n := by
    by_contra hne
    have hm : (u m).Parked := ⟨hs, hfree m⟩
    have hmw := h.parked hm
    cases hn : (u n).worker with
    | true =>
      exact hne (h.sole hmw hn (h.running hmw (h.covered hmw (.inr hs))) (h.running hn (hw hn)))
    | false => exact hfresh (h.early hne hm (hr hn))
  constructor <;> grind -linarith [Turn.Parked, TurnsInv]

/-- A request gives the mutex back without a session, the worker with or without one: then every request that has found the
flag clear by now is overtaken. -/
theorem unlock (h : TurnsInv u (some n) held working overtaken) (hreleased : (u n).worker = false → (u n).session = false)
    (hovertaken : ∀ m, overtaken m → overtaken' m)
    (hearly : (u n).session = true → ∀ m, m ≠ n → (u m).admitted = true → overtaken' m) :
    TurnsInv (Function.update u n { u n with locked := false }) none held working overtaken' := by
  have hlocked : (u n).locked = true := (h.mutex n).2 rfl
  constructor <;> grind -linarith [Turn.Parked, TurnsInv]

/-- A hold is taken, or it is dropped outside a session of the worker and beside no other hold of the worker. -/
theorem setHeld (h : TurnsInv u mutex held working overtaken) (hr : (u n).returned = false) (b : Bool)
    (hjob : b = false → (u n).worker = true → (u n).locked = false ∧ (u n).session = false)
    (hothers : b = false → ∀ m, m ≠ n → (u m).worker = true → (u m).held = false) :
    TurnsInv (Function.update u n { u n with held := b }) mutex b working overtaken := by
  constructor <;> grind -linarith [Turn.Parked, TurnsInv]

/-- The flag is clear only if no session is parked. -/
theorem radioHeld (h : TurnsInv u mutex held working overtaken) :
    TurnsInv (Function.update u n { u n with admitted := (u n).admitted || !held }) mutex held working overtaken := by
  have hparked {m : Nat} (hm : (u m).Parked) : held = true := h.flag (h.parked hm) (h.covered (h.parked hm) (.inr hm.1))
  constructor <;> grind -linarith [Turn.Parked, TurnsInv]

/-- The worker goes back to its channel. -/
theorem recv (h : TurnsInv u mutex held working overtaken) (hw : (u n).worker = true) (hr : (u n).returned = false)
    (hh : (u n).held = false) :
    TurnsInv (Function.update u n { u n with returned := true }) mutex held false overtaken := by
  constructor <;> grind -linarith [Turn.Parked, TurnsInv]

/-- A session begins, or ends, under the mutex. -/
theorem radio (h : TurnsInv u mutex held working overtaken) (hl : (u n).locked = true) (b : Bool) :
    TurnsInv (Function.update u n { u n with session := b }) mutex held working overtaken := by
  constructor <;> grind -linarith [Turn.Parked, TurnsInv]

/-- The worker takes a job from its channel. -/
theorem job (h : TurnsInv u mutex held false overtaken) (hn : u n = .idle) :
    TurnsInv (Function.update u n (.job false false false)) mutex held true overtaken := by
  have hnone {m : Nat} (hw : (u m).worker = true) : (u m).returned = true := by
    cases hr : (u m).returned with
    | true => rfl
    | false => cases h.working hw hr
  have hfree : mutex ≠ some n := fun hm => by
    have := (h.mutex n).2 hm
    rw [hn] at this
    cases this
  constructor <;> grind -linarith [Turn.Parked, TurnsInv]

/-- An event that has nothing to do with turns. -/
theorem keep (h : TurnsInv u mutex held working overtaken) :
    TurnsInv (Function.update u n (u n)) mutex held working overtaken := by
  rwa [Function.update_eq_self]

/-- What is early stays so. -/
theorem mono (h : TurnsInv u mutex held working overtaken) (hovertaken : ∀ m, overtaken m → overtaken' m) :
    TurnsInv u mutex held working overtaken' :=
  { h with early := fun hne hm hn => hovertaken _ (h.early hne hm hn) }

end TurnsInv
/-! ### Turns along a run -/

/-- The turn of operation `n` after a trace. -/
def turn (n : Nat) (tr : List (Label Op Op.Res Tag)) : Turn := stateOf turnProtocol .idle Turn.start n tr

/-- Since operation `n` has found `radio_held` clear, another operation has given the mutex back in its session. -/
def Overtaken (n : Nat) (tr : List (Label Op Op.Res Tag)) : Prop :=
  ∃ m t₁ t₂, m ≠ n ∧ tr = t₁ ++ .act m ⟨.unlock, ()⟩ :: t₂ ∧ ⟨.radioHeld, false⟩ ∈ eventsOf n t₁ ∧
    InSession (eventsOf m t₁)

/-- What keeps the sessions apart: nobody takes the mutex on an old look at `radio_held`, no hold is dropped while that of a
job is alive, and what is not a job gives the mutex back outside a session only. -/
structure KeepsApart (tr : List (Label Op Op.Res Tag)) (l : Label Op Op.Res Tag) : Prop where
  fresh {n : Nat} (h : l = .act n ⟨.lock, ()⟩) : ¬ Overtaken n tr
  holds {n : Nat} (h : l = .act n ⟨.setHeld false, ()⟩) (m : Nat) (id : String) (hne : m ≠ n)
    (hm : .spawn m (.job id) ∈ tr) : ¬ HoldAlive m tr
  released {n : Nat} (h : l = .act n ⟨.unlock, ()⟩) (hn : ∀ id, .spawn n (.job id) ∉ tr) : ¬ InSession (eventsOf n tr)

private theorem Overtaken.append {n : Nat} {tr : List (Label Op Op.Res Tag)} (h : Overtaken n tr)
    (t : List (Label Op Op.Res Tag)) : Overtaken n (tr ++ t) := by
  obtain ⟨m, t₁, t₂, hne, rfl, hread, hsession⟩ := h
  exact ⟨m, t₁, t₂ ++ t, hne, by simp, hread, hsession⟩

/-- An operation is not overtaken if nobody else gives the mutex back after it has read the flag. -/
theorem not_overtaken_append {n : Nat} {t₁ t₂ : List (Label Op Op.Res Tag)} (hread : .act n ⟨.radioHeld, false⟩ ∉ t₁)
    (hunlock : ∀ m, m ≠ n → .act m ⟨.unlock, ()⟩ ∉ t₂) : ¬ Overtaken n (t₁ ++ t₂) := by
  rintro ⟨m, s₁, s₂, hne, htr, hmem, -⟩
  rw [mem_eventsOf] at hmem
  rcases List.append_eq_append_iff.1 htr with ⟨u, rfl, rfl⟩ | ⟨u, rfl, hu⟩
  · exact hunlock m hne (by simp)
  · cases u with
    | nil =>
      rw [List.nil_append] at hu
      exact hunlock m hne (by simp [← hu])
    | cons l u => exact hread (by simp [hmem])

/-- The turns say what the trace does. -/
structure Mirrors (tr : List (Label Op Op.Res Tag)) : Prop where
  worker (n : Nat) : (turn n tr).worker = true ↔ ∃ id, .spawn n (.job id) ∈ tr
  admitted (n : Nat) : (turn n tr).admitted = true ↔ ⟨.radioHeld, false⟩ ∈ eventsOf n tr
  held (n : Nat) : (turn n tr).held = true ↔ HoldAlive n tr
  session (n : Nat) : (turn n tr).session = true ↔ InSession (eventsOf n tr)

private theorem inSession_concat {es : List (Event Op Op.Res)} {e : Event Op Op.Res} :
    InSession (es ++ [e]) ↔ Joined e ∨ InSession es ∧ ¬ Releases e := by
  rw [inSession_iff, Protocol.after_concat, next_session, inSession_iff]

/-- What an event makes of a turn. -/
theorem turn_next (g : Turn) (e : Event Op Op.Res) : (turnProtocol.next g e.1 e.2).worker = g.worker ∧
    ((turnProtocol.next g e.1 e.2).admitted = true ↔ g.admitted = true ∨ (⟨.radioHeld, false⟩ : Event Op Op.Res) = e) ∧
      (turnProtocol.next g e.1 e.2).held = holdAfter g.held e ∧
        ((turnProtocol.next g e.1 e.2).session = true ↔ Joined e ∨ g.session = true ∧ ¬ Releases e) := by
  obtain ⟨o, r⟩ := e
  cases o with
  | radioHeld =>
    refine ⟨rfl, ?_, rfl, iff_keep id nofun⟩
    cases r <;> simp [turnProtocol]
  | radio o =>
    cases o with
    | connected =>
      cases r with
      | error e => exact ⟨rfl, by simp [turnProtocol], rfl, iff_keep id nofun⟩
      | ok u => exact ⟨rfl, by simp [turnProtocol], rfl, fun _ => .inl trivial, fun _ => rfl⟩
    | release =>
      exact ⟨rfl, by simp [turnProtocol], rfl, iff_of_false nofun fun h => h.elim id fun h => h.2 rfl⟩
    | _ => exact ⟨rfl, by simp [turnProtocol], rfl, iff_keep id nofun⟩
  | _ => exact ⟨rfl, by simp [turnProtocol], rfl, iff_keep id nofun⟩

namespace Mirrors

variable {tr : List (Label Op Op.Res Tag)} {n : Nat}

private theorem init : Mirrors [] where
  worker _ := ⟨nofun, fun ⟨_, h⟩ => nomatch h⟩
  admitted _ := ⟨nofun, nofun⟩
  held _ := ⟨nofun, nofun⟩
  session _ := ⟨nofun, fun ⟨_, _, _, h, _⟩ => by simp at h⟩

/-- One operation at a time. -/
private theorem of_each (h : ∀ m, ((turn m tr).worker = true ↔ ∃ id, .spawn m (.job id) ∈ tr) ∧
    ((turn m tr).admitted = true ↔ ⟨.radioHeld, false⟩ ∈ eventsOf m tr) ∧ ((turn m tr).held = true ↔ HoldAlive m tr) ∧
      ((turn m tr).session = true ↔ InSession (eventsOf m tr))) : Mirrors tr :=
  ⟨fun m => (h m).1, fun m => (h m).2.1, fun m => (h m).2.2.1, fun m => (h m).2.2.2⟩

private theorem act (h : Mirrors tr) (e : Event Op Op.Res) : Mirrors (tr ++ [.act n e]) := by
  refine of_each fun m => ?_
  by_cases hne : n = m
  · subst hne
    obtain ⟨hworker, hadmitted, hheld, hsession⟩ := turn_next (turn n tr) e
    have hfold : (turn n tr).held = (eventsOf n tr).foldl holdAfter false := Bool.eq_iff_iff.2 (h.held n)
    rw [show turn n (tr ++ [.act n e]) = turnProtocol.next (turn n tr) e.1 e.2 from stateOf_act_self e]
    simp only [spawn_mem_act, HoldAlive, eventsOf_act_self, inSession_concat]
    refine ⟨?_, ?_, ?_, ?_⟩
    · rw [hworker, h.worker]
    · rw [hadmitted, h.admitted, List.mem_append, List.mem_singleton]
    · rw [hheld, hfold, List.foldl_append]
      rfl
    · rw [hsession, h.session]
  · rw [show turn m (tr ++ [.act n e]) = turn m tr from stateOf_act_of_ne hne e, eventsOf_act_of_ne hne,
      holdAlive_act_of_ne hne]
    simp only [spawn_mem_act]
    exact ⟨h.worker m, h.admitted m, h.held m, h.session m⟩

private theorem env (h : Mirrors tr) : Mirrors (tr ++ [.env]) := by
  have hturn (m : Nat) : turn m (tr ++ [.env]) = turn m tr := stateOf_env
  exact ⟨fun m => by simp only [hturn, h.worker, spawn_mem_env], fun m => by simp only [hturn, h.admitted, eventsOf_env],
    fun m => by simp only [hturn, h.held, holdAlive_env], fun m => by simp only [hturn, h.session, eventsOf_env]⟩

private theorem spawn (h : Mirrors tr) (hn : turn n tr = .idle) (t : Tag) : Mirrors (tr ++ [.spawn n t]) := by
  refine of_each fun m => ?_
  simp only [spawn_mem_spawn, eventsOf_spawn, holdAlive_spawn]
  by_cases hne : n = m
  · subst hne
    -- an operation that starts has done nothing before
    have hworker := h.worker n
    have hadmitted := h.admitted n
    have hheld := h.held n
    have hsession := h.session n
    rw [hn] at hworker hadmitted hheld hsession
    rw [show turn n (tr ++ [.spawn n t]) = Turn.start t from stateOf_spawn_self t, ← hadmitted, ← hheld, ← hsession]
    cases t with
    | request req =>
      refine ⟨iff_of_false Bool.false_ne_true ?_, .rfl, .rfl, .rfl⟩
      rintro ⟨id, hmem | ⟨-, htag⟩⟩
      · cases hworker.2 ⟨id, hmem⟩
      · cases htag
    | job id => exact ⟨iff_of_true rfl ⟨id, .inr ⟨rfl, rfl⟩⟩, .rfl, .rfl, .rfl⟩
  · rw [show turn m (tr ++ [.spawn n t]) = turn m tr from stateOf_spawn_of_ne hne t]
    simp only [Ne.symm hne, false_and, or_false]
    exact ⟨h.worker m, h.admitted m, h.held m, h.session m⟩

end Mirrors

/-! ### The invariant of a run -/

structure SessionsInv (tr : List (Label Op Op.Res Tag)) (s : Shared) : Prop where
  mirrors : Mirrors tr
  turns : TurnsInv (turn · tr) s.mutex s.held s.working (Overtaken · tr)
  undisturbed : Along Undisturbing tr

namespace SessionsInv

variable {tr : List (Label Op Op.Res Tag)} {s s' : Shared} {n : Nat}

private theorem init (now : Nat) : SessionsInv [] (.init now) where
  mirrors := .init
  turns := by
    have hidle (m : Nat) : turn m [] = .idle := rfl
    constructor <;> simp [hidle, Turn.idle, Turn.Parked, Shared.init]
  undisturbed := along_nil _

/-- A call of the radio is made under the mutex, and so in no session of somebody else. -/
theorem undisturbing (h : SessionsInv tr s) {o : Op} (r : o.Res) (ho : turnProtocol.allowed (turn n tr) o) :
    Undisturbing tr (.act n ⟨o, r⟩) := by
  intro hd m hne hm
  cases o with
  | radio o => exact hne (h.turns.exclusive ((h.mirrors.session m).2 hm) ho.2).symm
  | _ => exact hd.elim

/-- The turns after an event of operation `n`. -/
theorem turns_act (n : Nat) (e : Event Op Op.Res) (tr : List (Label Op Op.Res Tag)) :
    (turn · (tr ++ [.act n e])) = Function.update (turn · tr) n (turnProtocol.next (turn n tr) e.1 e.2) :=
  stateOf_update_act e tr

private theorem sem_offRadio {o : Op} {r : o.Res} (ho : OffRadio o) (h : Sem n s o r s') :
    s'.mutex = s.mutex ∧ s'.held = s.held ∧ s'.working = s.working := by
  cases o with
  | jobs => exact h.2.2 ▸ ⟨rfl, rfl, rfl⟩
  | cached => exact h.2 ▸ ⟨rfl, rfl, rfl⟩
  | send => cases r <;> [exact h ▸ ⟨rfl, rfl, rfl⟩; exact h.2 ▸ ⟨rfl, rfl, rfl⟩]
  | store | world => exact h ▸ ⟨rfl, rfl, rfl⟩
  | _ => exact ho.elim

/-- What one event does to the turns. -/
theorem act_turns (h : SessionsInv tr s) {o : Op} {r : o.Res} (ho : turnProtocol.allowed (turn n tr) o)
    (hC : KeepsApart tr (.act n ⟨o, r⟩)) (hsem : Sem n s o r s') :
    TurnsInv (Function.update (turn · tr) n (turnProtocol.next (turn n tr) o r)) s'.mutex s'.held s'.working
      (Overtaken · (tr ++ [.act n ⟨o, r⟩])) := by
  have hconcat : ∀ m, Overtaken m tr → Overtaken m (tr ++ [.act n ⟨o, r⟩]) := fun m hm => hm.append _
  have hturns := h.turns.mono hconcat
  obtain ⟨hrunning, hallowed⟩ := ho
  cases o with
  | lock =>
    obtain ⟨hfree, rfl⟩ := hsem
    have := h.turns
    rw [hfree] at this
    exact (this.lock hallowed.2.1 hallowed.2.2 (hC.fresh rfl)).mono hconcat
  | unlock =>
    obtain ⟨hmutex, rfl⟩ := hsem
    have := h.turns
    rw [hmutex] at this
    refine this.unlock (fun hw => ?_) hconcat fun hs m hne hm => ?_
    · rw [← Bool.not_eq_true, h.mirrors.session]
      refine hC.released rfl fun id hid => ?_
      rw [(h.mirrors.worker n).2 ⟨id, hid⟩] at hw
      cases hw
    · exact ⟨n, tr, [], Ne.symm hne, rfl, (h.mirrors.admitted m).1 hm, (h.mirrors.session n).1 hs⟩
  | setHeld held =>
    subst hsem
    refine hturns.setHeld hrunning held (fun hfalse => ?_) fun hfalse m hne hm => ?_
    · subst hfalse
      exact hallowed
    · subst hfalse
      obtain ⟨id, hid⟩ := (h.mirrors.worker m).1 hm
      rw [← Bool.not_eq_true, h.mirrors.held]
      exact hC.holds rfl m id hne hid
  | radioHeld =>
    obtain ⟨rfl, rfl⟩ := hsem
    exact hturns.radioHeld
  | recv =>
    subst hsem
    exact hturns.recv hallowed.1 hrunning hallowed.2
  | radio o =>
    subst hsem
    cases o with
    | connected =>
      cases r with
      | ok u => exact hturns.radio hallowed true
      | error e => exact hturns.keep
    | release => exact hturns.radio hallowed false
    | _ => exact hturns.keep
  | jobs | cached | store | send | world =>
    obtain ⟨hmutex, hheld, hworking⟩ := sem_offRadio (by trivial) hsem
    rw [hmutex, hheld, hworking]
    exact hturns.keep

end SessionsInv

variable {cfg : Config} {now : Nat} {tr : List (Label Op Op.Res Tag)} {c : Effect.Config Op Op.Res Shared}

/-- In every run whose steps keep the sessions apart, no session is disturbed. -/
theorem sessions_undisturbed (h : Steps (daemon cfg) KeepsApart (.init (.init now)) tr c) : Along Undisturbing tr := by
  refine (Steps.invariant_stateOf turnProtocol .idle Turn.start SessionsInv ?_ ?_ ?_ (.init now) h).1.undisturbed
  · intro tr s n t p s' hI hn _ hsp
    have hmirrors := hI.mirrors.spawn hn t
    have hundisturbed : Along Undisturbing (tr ++ [.spawn n t]) := along_concat.2 ⟨hI.undisturbed, trivial⟩
    have hturns := hI.turns.mono fun m hm => hm.append [.spawn n t]
    have hupdate : (turn · (tr ++ [.spawn n t])) = Function.update (turn · tr) n (Turn.start t) :=
      stateOf_update_spawn t tr
    cases t with
    | request req =>
      obtain ⟨rfl, rfl⟩ := hsp
      refine ⟨⟨hmirrors, ?_, hundisturbed⟩, serve_turn cfg req⟩
      rw [hupdate, show Turn.start (.request req) = turn n tr from hn.symm]
      exact hturns.keep
    | job id =>
      obtain ⟨hworking, rfl, queue, -, rfl⟩ := hsp
      refine ⟨⟨hmirrors, ?_, hundisturbed⟩, workerRound_turn cfg⟩
      rw [hworking] at hturns
      rw [hupdate]
      exact hturns.job hn
  · intro tr s n o r s' hI ho hC hsem
    refine ⟨trivial, hI.mirrors.act _, ?_, along_concat.2 ⟨hI.undisturbed, hI.undisturbing r ho⟩⟩
    rw [SessionsInv.turns_act]
    exact hI.act_turns ho hC hsem
  · rintro tr s s' hI ⟨_, _, -, -, rfl⟩
    have hturn : (turn · (tr ++ [.env])) = (turn · tr) := funext fun _ => stateOf_env
    refine ⟨hI.mirrors.env, ?_, along_concat.2 ⟨hI.undisturbed, trivial⟩⟩
    rw [hturn]
    exact hI.turns.mono fun m hm => hm.append [.env]

/-! ### A session that nobody disturbs -/

/-- While the job talks to its device, a scan is refused. -/
private def scanRefused : List (Label Op Op.Res Tag) := [.spawn 4 (.request apScan), .act 4 ⟨.radioHeld, true⟩]

/-- The device does not answer, and the job releases the radio. -/
private def jobLeaves : List (Label Op Op.Res Tag) :=
  [.act 3 ⟨.jobs (.isCancelled "job-1"), false⟩, .act 3 ⟨.jobs (.transition "job-1" .probing (some "read") none none), ()⟩,
    .act 3 ⟨.world (.request "192.168.4.1" 80 ⟨"GET", "/api/getConfigXML", none⟩), .error ⟨.timedOut, "late"⟩⟩,
    .act 3 ⟨.world .deadlineElapsed, false⟩, .act 3 ⟨.lock, ()⟩, .act 3 ⟨.radio .release, .ok ()⟩,
    .act 3 ⟨.unlock, ()⟩, .act 3 ⟨.jobs (.isCancelled "job-1"), false⟩,
    .act 3 ⟨.jobs (.transition "job-1" .failed none none (some "http error: late")), ()⟩,
    .act 3 ⟨.setHeld false, ()⟩, .act 3 ⟨.recv, ()⟩]

/-- Afterwards the radio scans again. -/
private def scansAgain : List (Label Op Op.Res Tag) :=
  [.spawn 5 (.request apScan), .act 5 ⟨.radioHeld, false⟩, .act 5 ⟨.lock, ()⟩, .act 5 ⟨.radio (.scan 64), .ok seen⟩,
    .act 5 ⟨.unlock, ()⟩]

/-- The rest of the run: the job, a scan beside it, and a scan after it. -/
private def jobRuns : List (Label Op Op.Res Tag) := jobJoins ++ scanRefused ++ jobLeaves ++ scansAgain

private theorem run_session : ∃ c,
    Runs (daemon .plain) (.init (.init 0)) (deviceFound ++ jobAccepted ++ jobRuns) c := by
  refine ⟨_, .cons (.spawn rfl ⟨rfl, rfl⟩) <| .cons (.act rfl ⟨rfl, rfl⟩) <| .cons (.act rfl ⟨rfl, rfl⟩) <|
    .cons (.act rfl rfl) <| .cons (.act rfl ⟨rfl, rfl⟩) <| .cons (.act rfl rfl) <|
    .cons (.spawn rfl ⟨rfl, rfl⟩) <| .cons (.act rfl ⟨?_, rfl, rfl⟩) <|
    .cons (.act rfl ⟨?_, rfl⟩) <| .cons (.spawn rfl ⟨rfl, rfl, _, rfl, rfl⟩) <| .cons (.act rfl ⟨trivial, rfl, rfl⟩) <|
    .cons (.act rfl ⟨trivial, rfl, rfl⟩) <| .cons (.act rfl ⟨trivial, rfl, rfl⟩) <| .cons (.act rfl ⟨?_, rfl⟩) <|
    .cons (.act rfl ⟨trivial, rfl, rfl⟩) <| .cons (.act rfl ⟨trivial, rfl, rfl⟩) <| .cons (.act rfl rfl) <|
    .cons (.act rfl ⟨rfl, rfl⟩) <| .cons (.act rfl rfl) <| .cons (.act rfl rfl) <| .cons (.act rfl rfl) <|
    .cons (.act rfl rfl) <| .cons (.act rfl rfl) <| .cons (.act rfl ⟨trivial, rfl, rfl⟩) <|
    .cons (.act rfl ⟨rfl, rfl⟩) <|
    .cons (.spawn rfl ⟨rfl, rfl⟩) <| .cons (.act rfl ⟨rfl, rfl⟩) <|
    .cons (.act rfl ⟨trivial, rfl, rfl⟩) <| .cons (.act rfl ⟨trivial, rfl, rfl⟩) <| .cons (.act rfl rfl) <|
    .cons (.act rfl rfl) <| .cons (.act rfl ⟨rfl, rfl⟩) <| .cons (.act rfl rfl) <| .cons (.act rfl ⟨rfl, rfl⟩) <|
    .cons (.act rfl ⟨trivial, rfl, rfl⟩) <| .cons (.act rfl ⟨trivial, rfl, rfl⟩) <| .cons (.act rfl rfl) <|
    .cons (.act rfl rfl) <|
    .cons (.spawn rfl ⟨rfl, rfl⟩) <| .cons (.act rfl ⟨rfl, rfl⟩) <| .cons (.act rfl ⟨rfl, rfl⟩) <|
    .cons (.act rfl rfl) <| .cons (.act rfl ⟨rfl, rfl⟩) .refl⟩
  · show 0 + 1 < 2 ^ 64
    omega
  · decide
  · rfl

/-- The operations with an event of some kind. -/
private def actors (p : Event Op Op.Res → Bool) (tr : List (Label Op Op.Res Tag)) : List Nat :=
  tr.filterMap fun
    | .act n e => if p e then some n else none
    | _ => none

private theorem mem_actors {p : Event Op Op.Res → Bool} {n : Nat} {e : Event Op Op.Res}
    {tr : List (Label Op Op.Res Tag)} (h : .act n e ∈ tr) (hp : p e = true) : n ∈ actors p tr :=
  List.mem_filterMap.2 ⟨_, h, if_pos hp⟩

private def isLock (e : Event Op Op.Res) : Bool := e.1 = .lock

private def isUnlock (e : Event Op Op.Res) : Bool := e.1 = .unlock

private def dropsHold (e : Event Op Op.Res) : Bool := e.1 = .setHeld false

private def findsClear : Event Op Op.Res → Bool
  | ⟨.radioHeld, held⟩ => !held
  | _ => false

private def isJoined : Event Op Op.Res → Bool
  | ⟨.radio .connected, .ok _⟩ => true
  | _ => false

/-- The operations of the worker. -/
private def workers (tr : List (Label Op Op.Res Tag)) : List Nat :=
  tr.filterMap fun
    | .spawn n (.job _) => some n
    | _ => none

private theorem mem_workers {n : Nat} {id : String} {tr : List (Label Op Op.Res Tag)} (h : .spawn n (.job id) ∈ tr) :
    n ∈ workers tr := List.mem_filterMap.2 ⟨_, h, rfl⟩

private theorem mem_actors_of_inSession {n : Nat} {t tr : List (Label Op Op.Res Tag)} (hsub : t ⊆ tr)
    (h : InSession (eventsOf n t)) : n ∈ actors isJoined tr := by
  obtain ⟨t₁, e, t₂, hevents, hjoined, -⟩ := h
  have hmem : .act n e ∈ t := by
    rw [← mem_eventsOf, hevents]
    simp
  refine mem_actors (hsub hmem) ?_
  unfold Joined at hjoined
  split at hjoined
  · rfl
  · exact hjoined.elim

/-- Nobody else is at work when the first scan takes the mutex. -/
private theorem keepsApart_found : Along KeepsApart (deviceFound ++ jobAccepted) := by
  intro t₁ l t₂ htr
  have hmem {n : Nat} {e : Event Op Op.Res} (hl : l = .act n e) : .act n e ∈ deviceFound ++ jobAccepted := by
    rw [htr, hl]
    simp
  constructor
  · intro n hl hovertaken
    have hn : n ∈ actors isLock (deviceFound ++ jobAccepted) := mem_actors (hmem hl) rfl
    obtain rfl : n = 0 := List.mem_singleton.1 hn
    have hwhole : Overtaken 0 ([] ++ (deviceFound ++ jobAccepted)) := htr ▸ hovertaken.append (l :: t₂)
    refine not_overtaken_append List.not_mem_nil (fun m hne hm => ?_) hwhole
    exact hne (List.mem_singleton.1 (mem_actors (p := isUnlock) hm rfl))
  · intro n hl
    cases mem_actors (p := dropsHold) (hmem hl) rfl
  · intro n _ _ hsession
    have hsub : t₁ ⊆ deviceFound ++ jobAccepted := by simp [htr]
    cases mem_actors_of_inSession hsub hsession

/-- The job does not look at the flag, and the last scan looks at it when the job has left the radio. -/
private theorem keepsApart_runs : Along (fun t => KeepsApart (deviceFound ++ jobAccepted ++ t)) jobRuns := by
  intro t₁ l t₂ htr
  have hmem {n : Nat} {e : Event Op Op.Res} (hl : l = .act n e) : .act n e ∈ jobRuns := by
    rw [htr, hl]
    simp
  have hsub : deviceFound ++ jobAccepted ++ t₁ ⊆ deviceFound ++ jobAccepted ++ jobRuns := by
    rw [htr, ← List.append_assoc]
    exact List.subset_append_left ..
  constructor
  · intro n hl hovertaken
    have hn : n ∈ actors isLock jobRuns := mem_actors (hmem hl) rfl
    have hwhole : Overtaken n (deviceFound ++ jobAccepted ++ jobRuns) := by
      rw [htr, ← List.append_assoc]
      exact hovertaken.append _
    have hcases : n = 3 ∨ n = 5 := by simpa using show n ∈ [3, 3, 5] from hn
    rcases hcases with rfl | rfl
    · rw [← List.append_nil (deviceFound ++ jobAccepted ++ jobRuns)] at hwhole
      refine not_overtaken_append (fun h => ?_) (fun _ _ => List.not_mem_nil) hwhole
      exact absurd (mem_actors (p := findsClear) h rfl) (by decide)
    · have hsplit : deviceFound ++ jobAccepted ++ jobRuns =
          deviceFound ++ jobAccepted ++ (jobJoins ++ scanRefused ++ jobLeaves) ++ scansAgain := by
        rw [jobRuns, List.append_assoc (deviceFound ++ jobAccepted)]
      rw [hsplit] at hwhole
      refine not_overtaken_append (fun h => ?_) (fun m hne hm => ?_) hwhole
      · exact absurd (mem_actors (p := findsClear) h rfl) (by decide)
      · exact hne (List.mem_singleton.1 (mem_actors (p := isUnlock) hm rfl))
  · intro n hl m id hne hm
    have hn : n = 3 := List.mem_singleton.1 (mem_actors (p := dropsHold) (hmem hl) rfl)
    exact absurd ((List.mem_singleton.1 (mem_workers (hsub hm))).trans hn.symm) hne
  · intro n hl hn hsession
    have hcases : n = 3 ∨ n = 5 := by simpa using show n ∈ [3, 3, 5] from mem_actors (p := isUnlock) (hmem hl) rfl
    rcases hcases with rfl | rfl
    · exact hn "job-1" (by simp [jobAccepted])
    · exact absurd (mem_actors_of_inSession hsub hsession) (by decide)

/-- A job whose session is over when the radio is used again. -/
theorem session_undisturbed : ∃ c,
    Steps (daemon .plain) KeepsApart (.init (.init 0)) (deviceFound ++ jobAccepted ++ jobRuns) c ∧
    InSession (eventsOf 3 (deviceFound ++ jobAccepted ++ jobJoins)) ∧
    Along Undisturbing (deviceFound ++ jobAccepted ++ jobRuns) := by
  obtain ⟨c, hrun⟩ := run_session
  have hsteps := hrun.of_along (along_append keepsApart_found keepsApart_runs)
  exact ⟨c, hsteps, inSession_iff.2 rfl, sessions_undisturbed hsteps⟩

end WirelessProgrammer
