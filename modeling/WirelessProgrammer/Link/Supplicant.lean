import WirelessProgrammer.Drivers.Contract
import WirelessProgrammer.Lib.Prog
import WirelessProgrammer.Link.SupplicantConf

/-!
# The supplicant of a session

`connect_psk` writes a configuration into a directory that is named after the SSID and runs `wpa_supplicant` with it;
`release` stops the supplicant and removes a directory that is named after the interface.  `session_clean_iff` says after
which calls no configuration and no supplicant is left.
-/

namespace WirelessProgrammer.Supplicant

open Effect

/-- What the calls do to the host and ask of it.  `write` is for the configuration in a directory. -/
inductive SupOp
  | setLinkUp
  | disconnect
  | createDirAll (dir : List Char)
  | write (dir config : List Char)
  | spawn (iface dir : List Char)
  | fourWayFail
  | fourWayOk
  | elapsed
  | kill (pid : Nat)
  | wait (pid : Nat)
  | removeDirAll (dir : List Char)

/-- A write that fails tells whether there is a configuration in spite of it, and a removal whether there is none, which
the calls do not look at. -/
abbrev SupOp.Res : SupOp → Type
  | setLinkUp => Except DriverError Unit
  | disconnect => Unit
  | createDirAll _ => Except IoError Unit
  | write .. => Except (IoError × Bool) Unit
  | spawn .. => Except IoError Nat
  | fourWayFail => Bool
  | fourWayOk => Bool
  | elapsed => Nat
  | kill _ => Unit
  | wait _ => Unit
  | removeDirAll _ => Bool

abbrev SupM := Prog SupOp SupOp.Res

abbrev SupEvent := Event SupOp SupOp.Res

namespace SupM

def setLinkUp : SupM (Except DriverError Unit) := .op .setLinkUp .ret

def disconnect : SupM Unit := .op .disconnect .ret

def createDirAll (dir : List Char) : SupM (Except IoError Unit) := .op (.createDirAll dir) .ret

def write (dir config : List Char) : SupM (Except (IoError × Bool) Unit) := .op (.write dir config) .ret

def spawn (iface dir : List Char) : SupM (Except IoError Nat) := .op (.spawn iface dir) .ret

def fourWayFail : SupM Bool := .op .fourWayFail .ret

def fourWayOk : SupM Bool := .op .fourWayOk .ret

def elapsed : SupM Nat := .op .elapsed .ret

def kill (pid : Nat) : SupM Unit := .op (.kill pid) .ret

def wait (pid : Nat) : SupM Unit := .op (.wait pid) .ret

def removeDirAll (dir : List Char) : SupM Bool := .op (.removeDirAll dir) .ret

end SupM

/-- Milliseconds. -/
def WPA_ASSOCIATE_DEADLINE : Nat := 30000

/-- Replace characters that are not safe in a path component with `_`. -/
def sanitize (s : List Char) : List Char :=
  s.map fun c => if c.isAlphanum ∨ c = '-' ∨ c = '.' then c else '_'

/-- The directory in the temporary directory. -/
def wpaDir (name : List Char) : List Char := "wp-wpa-".toList ++ sanitize name

/-- Kill a supplicant and wait for its end, and remove a directory. -/
def stop (pid : Nat) (dir : List Char) : SupM Unit := do
  SupM.kill pid
  SupM.wait pid
  let _ ← SupM.removeDirAll dir

/-- The loop of `spawn_wpa_supplicant`, for some number of passes. -/
def awaitFourWay (dir : List Char) (pid : Nat) : Nat → SupM (Option (Except DriverError Nat))
  | 0 => return none
  | n + 1 => do
    if ← SupM.fourWayFail then
      stop pid dir
      return some (.error (.other "wpa_supplicant: 4-way handshake failed (PSK rejected)"))
    else if ← SupM.fourWayOk then
      return some (.ok pid)
    else if WPA_ASSOCIATE_DEADLINE ≤ (← SupM.elapsed) then
      stop pid dir
      return some (.error .associationTimedOut)
    else
      awaitFourWay dir pid n

def spawnWpaSupplicant (passes : Nat) (iface ssid psk : List Char) : SupM (Option (Except DriverError Nat)) := do
  let _ ← SupM.disconnect
  let dir := wpaDir ssid
  match ← SupM.createDirAll dir with
  | .error e => return some (.error (.other s!"wpa_supplicant temp dir: {e.message}"))
  | .ok () =>
    match ← SupM.write dir (config ssid psk) with
    | .error (e, _) => return some (.error (.other s!"wpa_supplicant config: {e.message}"))
    | .ok () =>
      match ← SupM.spawn iface dir with
      | .error e => return some (.error (.other s!"spawn wpa_supplicant: {e.message}"))
      | .ok pid => awaitFourWay dir pid passes

/-- `connect_psk` of a radio with the supplicant `child`: the result, and the supplicant that the radio has then. -/
def connectPsk (passes : Nat) (iface ssid psk : List Char) (child : Option Nat) :
    SupM (Option (Except DriverError Unit × Option Nat)) := do
  match ← SupM.setLinkUp with
  | .error e => return some (.error e, child)
  | .ok () =>
    match ← spawnWpaSupplicant passes iface ssid psk with
    | none => return none
    | some (.error e) => return some (.error e, child)
    | some (.ok pid) => return some (.ok (), some pid)

/-- The part of `release` for the supplicant. -/
def release (iface : List Char) : Option Nat → SupM Unit
  | some pid => stop pid (wpaDir iface)
  | none => .ret ()

/-! ### The host -/

/-- The directories with a configuration that the calls have written, and the supplicants that run. -/
structure Host where
  files : List (List Char)
  running : List Nat
  deriving DecidableEq

/-- The host has removed a directory. -/
def removes : SupEvent → Bool
  | ⟨.removeDirAll _, gone⟩ => gone
  | _ => false

/-- What an event does. -/
def Host.next (h : Host) : SupEvent → Host
  | ⟨.write dir _, .ok ()⟩ => { h with files := dir :: h.files }
  | ⟨.write dir _, .error (_, made)⟩ => if made then { h with files := dir :: h.files } else h
  | ⟨.spawn .., .ok pid⟩ => { h with running := pid :: h.running }
  | ⟨.wait pid, _⟩ => { h with running := h.running.erase pid }
  | ⟨.removeDirAll dir, gone⟩ => if gone then { h with files := h.files.filter (· ≠ dir) } else h
  | _ => h

def Host.after (h : Host) (tr : List SupEvent) : Host := tr.foldl Host.next h

/-! ### What one call does -/

/-- The events that matter to the host, and the end of the 4-way handshake. -/
def touches : SupEvent → Bool
  | ⟨.write .., _⟩ => true
  | ⟨.spawn .., _⟩ => true
  | ⟨.fourWayOk, connected⟩ => connected
  | ⟨.wait _, _⟩ => true
  | ⟨.removeDirAll _, _⟩ => true
  | _ => false

def touching (tr : List SupEvent) : List SupEvent := tr.filter touches

private theorem next_of_not_touches {e : SupEvent} (he : touches e = false) (h : Host) : h.next e = h := by
  obtain ⟨op, r⟩ := e
  cases op with
  | write | spawn | wait | removeDirAll => cases he
  | _ => rfl

private theorem after_touching (h : Host) (tr : List SupEvent) : h.after (touching tr) = h.after tr := by
  induction tr generalizing h with
  | nil => rfl
  | cons e tr ih =>
    unfold touching at ih ⊢
    cases he : touches e with
    | true =>
      rw [List.filter_cons_of_pos he]
      exact ih (h.next e)
    | false =>
      have hskip : h.after (e :: tr) = h.after tr := congrArg (Host.after · tr) (next_of_not_touches he h)
      rw [List.filter_cons_of_neg (by simp [he]), hskip]
      exact ih h

private theorem any_removes_touching (tr : List SupEvent) : (touching tr).any removes = tr.any removes := by
  rw [touching, List.any_filter]
  congr 1
  funext ⟨op, r⟩
  cases op with
  | removeDirAll => exact Bool.true_and _
  | _ => exact Bool.and_false _

/-- How the host lets a connect end: before there is a configuration, with a write that fails and does or does not leave
one, without a supplicant, with a supplicant that has to be stopped and a directory that is then removed or not, and
connected. -/
inductive Fate
  | refused
  | unwritten (made : Bool)
  | unspawned
  | stopped (gone : Bool)
  | connected
  deriving DecidableEq

/-- The answer of the host that decides. -/
def decides : SupEvent → Option Fate
  | ⟨.write .., .error (_, made)⟩ => some (.unwritten made)
  | ⟨.spawn .., .error _⟩ => some .unspawned
  | ⟨.fourWayOk, true⟩ => some .connected
  | ⟨.removeDirAll _, gone⟩ => some (.stopped gone)
  | _ => none

def fate (tr : List SupEvent) : Fate := (tr.findSome? decides).getD .refused

private theorem decides_of_not_touches {e : SupEvent} (he : touches e = false) : decides e = none := by
  obtain ⟨op, r⟩ := e
  cases op with
  | write | spawn | wait | removeDirAll => cases he
  | fourWayOk =>
    cases r with
    | true => cases he
    | false => rfl
  | _ => rfl

private theorem fate_touching (tr : List SupEvent) : fate (touching tr) = fate tr := by
  suffices hfirst : (touching tr).findSome? decides = tr.findSome? decides by rw [fate, fate, hfirst]
  unfold touching
  induction tr with
  | nil => rfl
  | cons e tr ih =>
    cases he : touches e with
    | true => rw [List.filter_cons_of_pos he, List.findSome?_cons, List.findSome?_cons, ih]
    | false => rw [List.filter_cons_of_neg (by simp [he]), List.findSome?_cons, decides_of_not_touches he, ih]

/-- The end of a supplicant. -/
def ending (pid : Nat) (dir : List Char) (gone : Bool) : List SupEvent := [⟨.wait pid, ()⟩, ⟨.removeDirAll dir, gone⟩]

private theorem run_stop {pid : Nat} {dir : List Char} {tr : List SupEvent} {u : Unit}
    (h : Prog.Run (stop pid dir) tr u) : ∃ gone, touching tr = ending pid dir gone := by
  obtain ⟨_, t₁, rfl, h₁⟩ := Prog.run_op.1 h
  obtain ⟨_, t₂, rfl, h₂⟩ := Prog.run_op.1 h₁
  obtain ⟨gone, t₃, rfl, h₃⟩ := Prog.run_op.1 h₂
  obtain ⟨rfl, -⟩ := Prog.run_ret.1 h₃
  exact ⟨gone, rfl⟩

private theorem run_stop_ret {α : Type} {pid : Nat} {dir : List Char} {a b : α} {tr : List SupEvent}
    (h : Prog.Run (stop pid dir >>= fun _ => .ret a) tr b) : b = a ∧ ∃ gone, touching tr = ending pid dir gone := by
  obtain ⟨t, t', _, rfl, hstop, hret⟩ := Prog.run_bind.1 h
  obtain ⟨rfl, rfl⟩ := Prog.run_ret.1 hret
  rw [List.append_nil]
  exact ⟨rfl, run_stop hstop⟩

/-- The supplicant runs on, or it is stopped and its directory removed. -/
theorem run_awaitFourWay {dir : List Char} {pid n : Nat} {tr : List SupEvent} {r : Except DriverError Nat}
    (h : Prog.Run (awaitFourWay dir pid n) tr (some r)) :
    (r = .ok pid ∧ touching tr = [⟨.fourWayOk, true⟩]) ∨
      ∃ e gone, r = .error e ∧ touching tr = ending pid dir gone := by
  -- what a pass does that ends the supplicant
  have hends : ∀ {t : List SupEvent} {e : DriverError},
      Prog.Run (stop pid dir >>= fun _ => .ret (some (.error e))) t (some r) →
      ∃ e gone, r = .error e ∧ touching t = ending pid dir gone := by
    intro t e ht
    obtain ⟨hr, gone, hgone⟩ := run_stop_ret ht
    exact ⟨e, gone, Option.some.inj hr, hgone⟩
  induction n generalizing tr with
  | zero => cases h
  | succ n ih =>
    obtain ⟨failed, t₁, rfl, h₁⟩ := Prog.run_op.1 h
    have hskip : touching (⟨.fourWayFail, failed⟩ :: t₁) = touching t₁ := rfl
    rw [hskip]
    cases failed with
    | true => exact .inr (hends h₁)
    | false =>
      obtain ⟨connected, t₂, rfl, h₂⟩ := Prog.run_op.1 h₁
      cases connected with
      | true =>
        obtain ⟨rfl, hr⟩ := Prog.run_ret.1 h₂
        exact .inl ⟨Option.some.inj hr, rfl⟩
      | false =>
        obtain ⟨millis, t₃, rfl, h₃⟩ := Prog.run_op.1 h₂
        have hskip : touching (⟨.fourWayOk, false⟩ :: ⟨.elapsed, millis⟩ :: t₃) = touching t₃ := rfl
        rw [hskip]
        by_cases hlate : WPA_ASSOCIATE_DEADLINE ≤ millis
        · have h₃ : Prog.Run (if WPA_ASSOCIATE_DEADLINE ≤ millis then
            stop pid dir >>= fun _ => .ret (some (.error .associationTimedOut)) else awaitFourWay dir pid n) t₃ (some r) := h₃
          rw [if_pos hlate] at h₃
          exact .inr (hends h₃)
        · have h₃ : Prog.Run (if WPA_ASSOCIATE_DEADLINE ≤ millis then
            stop pid dir >>= fun _ => .ret (some (.error .associationTimedOut)) else awaitFourWay dir pid n) t₃ (some r) := h₃
          rw [if_neg hlate] at h₃
          exact ih h₃

/-- The ways in which a connect ends, by what it has done to the host: without a configuration, with a failed write, without
a supplicant, with a supplicant that was stopped, and connected. -/
inductive Attempt (iface ssid psk : List Char) (child : Option Nat) :
    List SupEvent → Except DriverError Unit → Option Nat → Prop
  | nothing (e : DriverError) : Attempt iface ssid psk child [] (.error e) child
  | unwritten (e : DriverError) (cause : IoError × Bool) :
    Attempt iface ssid psk child [⟨.write (wpaDir ssid) (config ssid psk), .error cause⟩] (.error e) child
  | unspawned (e : DriverError) (cause : IoError) : Attempt iface ssid psk child
    [⟨.write (wpaDir ssid) (config ssid psk), .ok ()⟩, ⟨.spawn iface (wpaDir ssid), .error cause⟩] (.error e) child
  | stopped (e : DriverError) (pid : Nat) (gone : Bool) : Attempt iface ssid psk child
    (⟨.write (wpaDir ssid) (config ssid psk), .ok ()⟩ :: ⟨.spawn iface (wpaDir ssid), .ok pid⟩ ::
      ending pid (wpaDir ssid) gone) (.error e) child
  | connected (pid : Nat) : Attempt iface ssid psk child
    [⟨.write (wpaDir ssid) (config ssid psk), .ok ()⟩, ⟨.spawn iface (wpaDir ssid), .ok pid⟩, ⟨.fourWayOk, true⟩]
    (.ok ()) (some pid)

private theorem run_spawnWpaSupplicant {passes : Nat} {iface ssid psk : List Char} {tr : List SupEvent}
    {r : Except DriverError Nat} (h : Prog.Run (spawnWpaSupplicant passes iface ssid psk) tr (some r))
    (child : Option Nat) :
    Attempt iface ssid psk child (touching tr) (r.map fun _ => ()) (r.toOption.or child) := by
  obtain ⟨_, t₁, rfl, h₁⟩ := Prog.run_op.1 h
  obtain ⟨made, t₂, rfl, h₂⟩ := Prog.run_op.1 h₁
  cases made with
  | error e =>
    obtain ⟨rfl, hr⟩ := Prog.run_ret.1 h₂
    obtain rfl := Option.some.inj hr
    exact .nothing _
  | ok _ =>
    obtain ⟨written, t₃, rfl, h₃⟩ := Prog.run_op.1 h₂
    cases written with
    | error cause =>
      obtain ⟨rfl, hr⟩ := Prog.run_ret.1 h₃
      obtain rfl := Option.some.inj hr
      exact .unwritten _ cause
    | ok _ =>
      obtain ⟨spawned, t₄, rfl, h₄⟩ := Prog.run_op.1 h₃
      cases spawned with
      | error cause =>
        obtain ⟨rfl, hr⟩ := Prog.run_ret.1 h₄
        obtain rfl := Option.some.inj hr
        exact .unspawned _ cause
      | ok pid =>
        have hcons : touching (⟨.disconnect, ()⟩ :: ⟨.createDirAll (wpaDir ssid), .ok ()⟩ ::
            ⟨.write (wpaDir ssid) (config ssid psk), .ok ()⟩ :: ⟨.spawn iface (wpaDir ssid), .ok pid⟩ :: t₄) =
            ⟨.write (wpaDir ssid) (config ssid psk), .ok ()⟩ :: ⟨.spawn iface (wpaDir ssid), .ok pid⟩ :: touching t₄ := rfl
        rcases run_awaitFourWay h₄ with ⟨rfl, hnone⟩ | ⟨e, gone, rfl, hgone⟩
        · have hattempt : Attempt iface ssid psk child _ _ _ := .connected pid
          rw [← hnone, ← hcons] at hattempt
          exact hattempt
        · have hattempt : Attempt iface ssid psk child _ _ _ := .stopped e pid gone
          rw [← hgone, ← hcons] at hattempt
          exact hattempt

private theorem run_connectPsk {passes : Nat} {iface ssid psk : List Char} {child child' : Option Nat}
    {tr : List SupEvent} {r : Except DriverError Unit}
    (h : Prog.Run (connectPsk passes iface ssid psk child) tr (some (r, child'))) :
    Attempt iface ssid psk child (touching tr) r child' := by
  obtain ⟨up, t₁, rfl, h₁⟩ := Prog.run_op.1 h
  cases up with
  | error e =>
    obtain ⟨rfl, hr⟩ := Prog.run_ret.1 h₁
    obtain ⟨rfl, rfl⟩ := Prod.mk.inj (Option.some.inj hr)
    exact .nothing e
  | ok _ =>
    have hskip : touching (⟨.setLinkUp, .ok ()⟩ :: t₁) = touching t₁ := rfl
    rw [hskip]
    obtain ⟨t, t', spawned, rfl, hspawn, hret⟩ := (Prog.run_bind (p := spawnWpaSupplicant passes iface ssid psk)).1 h₁
    cases spawned with
    | none => cases hret
    | some spawned =>
      have hattempt := run_spawnWpaSupplicant hspawn child
      cases spawned with
      | error e =>
        obtain ⟨rfl, hr⟩ := Prog.run_ret.1 hret
        obtain ⟨rfl, rfl⟩ := Prod.mk.inj (Option.some.inj hr)
        rw [List.append_nil]
        exact hattempt
      | ok pid =>
        obtain ⟨rfl, hr⟩ := Prog.run_ret.1 hret
        obtain ⟨rfl, rfl⟩ := Prod.mk.inj (Option.some.inj hr)
        rw [List.append_nil]
        exact hattempt

/-! ### Sessions -/

/-- A call that has returned, with its events. -/
inductive Done
  | connect (ssid psk : List Char) (result : Except DriverError Unit) (tr : List SupEvent)
  | release (tr : List SupEvent)

/-- Calls one after the other, with the host and the supplicant of the radio before and after them. -/
inductive Session (iface : List Char) : Host × Option Nat → List Done → Host × Option Nat → Prop
  | nil (x : Host × Option Nat) : Session iface x [] x
  | connect {host : Host} {child child' : Option Nat} {passes : Nat} {ssid psk : List Char} {tr : List SupEvent}
      {result : Except DriverError Unit} {ds : List Done} {y : Host × Option Nat}
      (h : Prog.Run (connectPsk passes iface ssid psk child) tr (some (result, child')))
      (hs : Session iface (host.after tr, child') ds y) : Session iface (host, child) (.connect ssid psk result tr :: ds) y
  | release {host : Host} {child : Option Nat} {tr : List SupEvent} {ds : List Done} {y : Host × Option Nat}
      (h : Prog.Run (release iface child) tr ()) (hs : Session iface (host.after tr, none) ds y) :
      Session iface (host, child) (.release tr :: ds) y

/-- A configuration stays behind. -/
def Fate.leaves : Fate → Bool
  | refused => false
  | unwritten made => made
  | unspawned => true
  | stopped gone => !gone
  | connected => true

/-- The call leaves its configuration in the directory. -/
def Done.Leaves (dir : List Char) : Done → Prop
  | connect ssid _ _ tr => wpaDir ssid = dir ∧ (fate tr).leaves = true
  | release _ => False

/-- The host removes the directory when the call asks for it: a connect that fails for its SSID, a release for the
interface. -/
def Done.Clears (iface dir : List Char) : Done → Prop
  | connect ssid _ _ tr => wpaDir ssid = dir ∧ fate tr = .stopped true
  | release tr => wpaDir iface = dir ∧ tr.any removes = true

/-- The host lets no connect succeed while the radio has a supplicant, which is so from a connect that succeeds up to the
next release. -/
def Alternate : Bool → List Done → Prop
  | _, [] => True
  | has, .connect _ _ _ tr :: ds => if fate tr = .connected then has = false ∧ Alternate true ds else Alternate has ds
  | _, .release _ :: ds => Alternate false ds

section Session

variable {iface ssid psk : List Char} {child child' : Option Nat} {ev tr : List SupEvent} {r : Except DriverError Unit}
  {x y : Host × Option Nat} {ds : List Done}

/-- The configurations after a connect, by its fate. -/
theorem Attempt.files_eq (h : Attempt iface ssid psk child ev r child') (host : Host) :
    (host.after ev).files =
      if fate ev = .stopped true then (wpaDir ssid :: host.files).filter fun dir => decide (dir ≠ wpaDir ssid)
      else if (fate ev).leaves = true then wpaDir ssid :: host.files
      else host.files := by
  cases h with
  | nothing e => rfl
  | unwritten e cause =>
    obtain ⟨cause, made⟩ := cause
    cases made <;> rfl
  | unspawned e cause => rfl
  | stopped e pid gone => cases gone <;> rfl
  | connected pid => rfl

private theorem Attempt.files (h : Attempt iface ssid psk child ev r child') (host : Host) (dir : List Char) :
    dir ∈ (host.after ev).files ↔ (wpaDir ssid = dir ∧ (fate ev).leaves = true) ∨
      (dir ∈ host.files ∧ ¬ (wpaDir ssid = dir ∧ fate ev = .stopped true)) := by
  rw [h.files_eq]
  by_cases hstopped : fate ev = .stopped true
  · have hnone : (fate ev).leaves = false := by rw [hstopped]; rfl
    rw [if_pos hstopped, hnone, List.mem_filter, List.mem_cons, decide_eq_true_iff]
    by_cases hd : dir = wpaDir ssid
    · simp [hd, hstopped]
    · have hd' : wpaDir ssid ≠ dir := Ne.symm hd
      simp [hd, hd']
  · rw [if_neg hstopped]
    cases hleaves : (fate ev).leaves with
    | false => simp [hstopped]
    | true => simp [hstopped, eq_comm]

/-- A supplicant more, which is the one of the radio then, or the ones that there were. -/
theorem Attempt.running (h : Attempt iface ssid psk child ev r child') (host : Host) :
    (fate ev ≠ .connected ∧ child' = child ∧ (host.after ev).running = host.running) ∨
      ∃ pid, fate ev = .connected ∧ child' = some pid ∧ (host.after ev).running = pid :: host.running := by
  cases h with
  | nothing e => exact .inl ⟨by decide, rfl, rfl⟩
  | unwritten e cause =>
    obtain ⟨cause, made⟩ := cause
    refine .inl ⟨Fate.noConfusion, rfl, ?_⟩
    cases made <;> rfl
  | unspawned e cause => exact .inl ⟨Fate.noConfusion, rfl, rfl⟩
  | stopped e pid gone =>
    refine .inl ⟨Fate.noConfusion, rfl, ?_⟩
    have herase : (pid :: host.running).erase pid = host.running := List.erase_cons_head pid host.running
    cases gone <;> exact herase
  | connected pid => exact .inr ⟨pid, rfl, rfl, rfl⟩

private theorem run_release_none (h : Prog.Run (release iface none) tr ()) : tr = [] := (Prog.run_ret.1 h).1

/-- A release clears the directory of the interface if it removes anything. -/
theorem files_release (h : Prog.Run (release iface child) tr ()) (host : Host) (dir : List Char) :
    dir ∈ (host.after tr).files ↔ dir ∈ host.files ∧ ¬ (wpaDir iface = dir ∧ tr.any removes = true) := by
  cases child with
  | none =>
    obtain rfl := run_release_none h
    simp [Host.after]
  | some pid =>
    obtain ⟨gone, hgone⟩ := run_stop h
    have hremoves : tr.any removes = gone := by
      rw [← any_removes_touching, hgone]
      cases gone <;> rfl
    rw [← after_touching, hgone, hremoves]
    cases gone with
    | false =>
      have hfiles : (host.after (ending pid (wpaDir iface) false)).files = host.files := rfl
      simp [hfiles]
    | true =>
      have hfiles : (host.after (ending pid (wpaDir iface) true)).files =
        host.files.filter fun dir => decide (dir ≠ wpaDir iface) := rfl
      rw [hfiles, List.mem_filter, decide_eq_true_iff, and_iff_left (rfl : true = true)]
      exact and_congr_right fun _ => not_congr eq_comm

private theorem running_release (h : Prog.Run (release iface child) tr ()) (host : Host) :
    (host.after tr).running = child.elim host.running host.running.erase := by
  cases child with
  | none =>
    obtain rfl := run_release_none h
    rfl
  | some pid =>
    obtain ⟨gone, hgone⟩ := run_stop h
    rw [← after_touching, hgone]
    cases gone <;> rfl

/-- The last call that has something to do with the directory leaves a configuration in it. -/
def Left (iface dir : List Char) (ds : List Done) : Prop :=
  ∃ before d after, ds = before ++ d :: after ∧ d.Leaves dir ∧ ∀ t ∈ after, ¬ t.Clears iface dir

private theorem left_cons {dir : List Char} {d : Done} :
    Left iface dir (d :: ds) ↔ (d.Leaves dir ∧ ∀ t ∈ ds, ¬ t.Clears iface dir) ∨ Left iface dir ds := by
  constructor
  · rintro ⟨before, t, after, hsplit, hleaves, hclears⟩
    cases before with
    | nil =>
      obtain ⟨rfl, rfl⟩ := List.cons.inj hsplit
      exact .inl ⟨hleaves, hclears⟩
    | cons b before =>
      obtain ⟨rfl, rfl⟩ := List.cons.inj hsplit
      exact .inr ⟨before, t, after, rfl, hleaves, hclears⟩
  · rintro (⟨hleaves, hclears⟩ | ⟨before, t, after, rfl, hleaves, hclears⟩)
    · exact ⟨[], d, ds, rfl, hleaves, hclears⟩
    · exact ⟨d :: before, t, after, rfl, hleaves, hclears⟩

/-- The configurations after a session are the ones that are left, and the ones of before that no call has removed. -/
theorem Session.mem_files (h : Session iface x ds y) (dir : List Char) :
    dir ∈ y.1.files ↔ Left iface dir ds ∨ (dir ∈ x.1.files ∧ ∀ t ∈ ds, ¬ t.Clears iface dir) := by
  induction h with
  | nil x => simp [Left]
  | @connect host child child' passes ssid psk tr result ds y hrun hs ih =>
    have hfiles := (run_connectPsk hrun).files host dir
    rw [after_touching, fate_touching] at hfiles
    have hfiles : dir ∈ (host.after tr).files ↔ (Done.connect ssid psk result tr).Leaves dir ∨
      (dir ∈ host.files ∧ ¬ (Done.connect ssid psk result tr).Clears iface dir) := hfiles
    rw [ih, hfiles, left_cons, List.forall_mem_cons, or_and_right, and_assoc, or_assoc, or_left_comm]
  | @release host child tr ds y hrun hs ih =>
    have hfiles : dir ∈ (host.after tr).files ↔ dir ∈ host.files ∧ ¬ (Done.release tr).Clears iface dir :=
      files_release hrun host dir
    have hleft : Left iface dir (.release tr :: ds) ↔ Left iface dir ds := left_cons.trans (or_iff_right And.left)
    rw [ih, hfiles, hleft, List.forall_mem_cons, and_assoc]

/-! ### The supplicants -/

/-- Only the supplicant of the radio runs. -/
def Sole (x : Host × Option Nat) : Prop := x.1.running = x.2.toList

/-- The supplicant of the radio runs, and another one. -/
structure Crowded (x : Host × Option Nat) : Prop where
  owned : ∀ pid, x.2 = some pid → pid ∈ x.1.running
  more : x.2.toList.length < x.1.running.length

private theorem Crowded.not_sole (h : Crowded x) : ¬ Sole x := by
  intro hsole
  have hmore := h.more
  rw [hsole] at hmore
  exact Nat.lt_irrefl _ hmore

/-- A supplicant that the radio has lost sight of runs for ever. -/
theorem Session.crowded (h : Session iface x ds y) (hx : Crowded x) : Crowded y := by
  induction h with
  | nil x => exact hx
  | @connect host child child' passes ssid psk tr result ds y hrun hs ih =>
    apply ih
    obtain ⟨howned, hmore⟩ := hx
    have hrunning := (run_connectPsk hrun).running host
    rw [after_touching, fate_touching] at hrunning
    rcases hrunning with ⟨hfate, rfl, hsame⟩ | ⟨pid, hfate, rfl, hcons⟩
    · constructor
      · rw [hsame]
        exact howned
      · rw [hsame]
        exact hmore
    · -- the new supplicant takes the place of the old one, which runs on
      constructor
      · intro p hp
        rw [hcons, Option.some.inj hp]
        exact List.mem_cons_self
      · have hone : (host.after tr).running.length = host.running.length + 1 := by
          rw [hcons]
          rfl
        have hpos : 0 < host.running.length := Nat.lt_of_le_of_lt (Nat.zero_le _) hmore
        show 1 < (host.after tr).running.length
        omega
  | @release host child tr ds y hrun hs ih =>
    apply ih
    obtain ⟨howned, hmore⟩ := hx
    have hrunning := running_release hrun host
    constructor
    · intro p hp
      cases hp
    · show 0 < (host.after tr).running.length
      rw [hrunning]
      cases child with
      | none => exact hmore
      | some pid =>
        have herase : (host.running.erase pid).length = host.running.length - 1 :=
          List.length_erase_of_mem (howned pid rfl)
        have hmore : 1 < host.running.length := hmore
        show 0 < (host.running.erase pid).length
        omega

private theorem alternate_connected {result : Except DriverError Unit} (has : Bool) (hfate : fate tr = .connected) :
    Alternate has (.connect ssid psk result tr :: ds) ↔ has = false ∧ Alternate true ds := by
  rw [Alternate, if_pos hfate]

private theorem alternate_not_connected {result : Except DriverError Unit} (has : Bool) (hfate : fate tr ≠ .connected) :
    Alternate has (.connect ssid psk result tr :: ds) ↔ Alternate has ds := by
  rw [Alternate, if_neg hfate]

private theorem Session.sole_iff (h : Session iface x ds y) (hx : Sole x) : Sole y ↔ Alternate x.2.isSome ds := by
  induction h with
  | nil x => exact iff_of_true hx trivial
  | @connect host child child' passes ssid psk tr result ds y hrun hs ih =>
    have hx : host.running = child.toList := hx
    have hrunning := (run_connectPsk hrun).running host
    rw [after_touching, fate_touching] at hrunning
    rcases hrunning with ⟨hfate, rfl, hsame⟩ | ⟨pid, hfate, rfl, hcons⟩
    · exact (ih (hsame.trans hx)).trans (alternate_not_connected _ hfate).symm
    · rw [alternate_connected _ hfate]
      cases child with
      | none =>
        have hsole : Sole (host.after tr, some pid) := by
          rw [Sole, hcons, hx]
          rfl
        exact (ih hsole).trans (and_iff_right rfl).symm
      | some old =>
        -- the supplicant that is replaced keeps running
        have hcrowded : Crowded (host.after tr, some pid) := by
          constructor
          · intro p hp
            rw [hcons, Option.some.inj hp]
            exact List.mem_cons_self
          · rw [hcons, hx]
            exact Nat.lt_succ_self 1
        refine iff_of_false (hs.crowded hcrowded).not_sole ?_
        intro halt
        have hfalse : true = false := halt.1
        cases hfalse
  | @release host child tr ds y hrun hs ih =>
    apply ih
    have hx : host.running = child.toList := hx
    rw [Sole, running_release hrun, hx]
    cases child with
    | none => rfl
    | some pid => exact List.erase_cons_head pid []

/-- A session that ends with a release has no supplicant. -/
theorem Session.child_eq_none (h : Session iface x (ds ++ [.release tr]) y) : y.2 = none := by
  induction ds generalizing x with
  | nil =>
    cases h with
    | release _ hs =>
      cases hs
      rfl
  | cons d ds ih =>
    cases h with
    | connect _ hs => exact ih hs
    | release _ hs => exact ih hs

private theorem alternate_concat (has : Bool) : Alternate has (ds ++ [.release tr]) ↔ Alternate has ds := by
  induction ds generalizing has with
  | nil => exact Iff.rfl
  | cons d ds ih =>
    cases d with
    | connect ssid psk result t =>
      by_cases hfate : fate t = .connected
      · rw [List.cons_append, alternate_connected has hfate, alternate_connected has hfate, ih]
      · rw [List.cons_append, alternate_not_connected has hfate, alternate_not_connected has hfate, ih]
    | release t => exact ih false

/-- After connects and releases of which the last one is a release, no configuration that a connect has written is left and
no supplicant runs, if and only if no connect succeeds while the radio has a supplicant, and every call that leaves its
configuration behind is followed by one that removes the directory. -/
theorem session_clean_iff (h : Session iface (⟨[], []⟩, none) (ds ++ [.release tr]) y) :
    (y.1.files = [] ∧ y.1.running = []) ↔ Alternate false ds ∧
      ∀ before d after dir, ds ++ [.release tr] = before ++ d :: after → d.Leaves dir → ∃ t ∈ after, t.Clears iface dir := by
  have hfiles : y.1.files = [] ↔ ∀ dir, ¬ Left iface dir (ds ++ [.release tr]) := by
    rw [List.eq_nil_iff_forall_not_mem]
    apply forall_congr'
    intro dir
    rw [h.mem_files]
    simp
  have hrunning : y.1.running = [] ↔ Alternate false ds := by
    have hsole := h.sole_iff rfl
    rw [Sole, h.child_eq_none] at hsole
    exact hsole.trans (alternate_concat false)
  rw [hfiles, hrunning, and_comm]
  apply and_congr_right
  intro _
  unfold Left
  constructor
  · intro hleft before d after dir hsplit hleaves
    by_contra hnone
    apply hleft dir
    refine ⟨before, d, after, hsplit, hleaves, ?_⟩
    intro t ht hclears
    exact hnone ⟨t, ht, hclears⟩
  · rintro hall dir ⟨before, d, after, hsplit, hleaves, hnot⟩
    obtain ⟨t, ht, hclears⟩ := hall before d after dir hsplit hleaves
    exact hnot t ht hclears

end Session

/-! ### One connect and a release -/

/-- A connect that succeeds. -/
private def joining (iface ssid psk : List Char) : List SupEvent :=
  [⟨.setLinkUp, .ok ()⟩, ⟨.disconnect, ()⟩, ⟨.createDirAll (wpaDir ssid), .ok ()⟩,
    ⟨.write (wpaDir ssid) (config ssid psk), .ok ()⟩, ⟨.spawn iface (wpaDir ssid), .ok 7⟩, ⟨.fourWayFail, false⟩,
    ⟨.fourWayOk, true⟩]

private def leaving (iface : List Char) : List SupEvent :=
  [⟨.kill 7, ()⟩, ⟨.wait 7, ()⟩, ⟨.removeDirAll (wpaDir iface), true⟩]

private theorem session_joining (iface ssid psk : List Char) :
    Session iface (⟨[], []⟩, none) ([.connect ssid psk (.ok ()) (joining iface ssid psk)] ++ [.release (leaving iface)])
      (⟨[wpaDir ssid].filter (· ≠ wpaDir iface), []⟩, none) := by
  have hconnect : Prog.Run (connectPsk 1 iface ssid psk none) (joining iface ssid psk) (some (.ok (), some 7)) :=
    .op (.op (.op (.op (.op (.op (.op (.ret _)))))))
  have hrelease : Prog.Run (release iface (some 7)) (leaving iface) () := .op (.op (.op (.ret _)))
  exact .connect hconnect (.release hrelease (.nil _))

/-- An access point that is called like the interface. -/
theorem session_clean_same_name : ∃ y, Session "wlan0".toList (⟨[], []⟩, none)
    ([.connect "wlan0".toList [] (.ok ()) (joining "wlan0".toList "wlan0".toList [])] ++
      [.release (leaving "wlan0".toList)]) y ∧ y.1.files = [] ∧ y.1.running = [] := by
  refine ⟨_, session_joining "wlan0".toList "wlan0".toList [], ?_⟩
  apply (session_clean_iff (session_joining "wlan0".toList "wlan0".toList [])).2
  refine ⟨⟨rfl, trivial⟩, ?_⟩
  intro before d after dir hsplit hleaves
  cases before with
  | nil =>
    obtain ⟨rfl, rfl⟩ := List.cons.inj hsplit
    exact ⟨_, List.mem_singleton_self _, hleaves.1, rfl⟩
  | cons b before =>
    obtain ⟨-, hrest⟩ := List.cons.inj hsplit
    cases before with
    | nil =>
      obtain ⟨rfl, -⟩ := List.cons.inj hrest
      exact absurd hleaves id
    | cons c before =>
      obtain ⟨-, hnil⟩ := List.cons.inj hrest
      exact absurd hnil.symm (by simp)

/-- The configuration with the passphrase is still there after the release. -/
theorem passphrase_left : ∃ ds tr y, Session "wlan0".toList (⟨[], []⟩, none) (ds ++ [.release tr]) y ∧
    y.1.files = [wpaDir "RB2300_1".toList] :=
  ⟨_, _, _, session_joining "wlan0".toList "RB2300_1".toList "12345678".toList, by decide⟩

end WirelessProgrammer.Supplicant
