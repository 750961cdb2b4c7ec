import WirelessProgrammer.Core
import WirelessProgrammer.Lib.Prog

/-!
# UDP sockets polled until a deadline

What `mdns.rs` and `z21.rs` do with their sockets and the clock, and the loop that both are made of: receive, with the
read timeout of the socket, until the clock has reached a deadline.  A loop that returns has folded what it received
(`run_pollUntil_ok`), and a loop returns as soon as the clock reaches its deadline (`run_pollUntil_none`).
-/

namespace WirelessProgrammer

open Effect

structure Ipv4Addr where
  a : UInt8
  b : UInt8
  c : UInt8
  d : UInt8
  deriving DecidableEq, Repr

instance : ToString Ipv4Addr := ⟨fun x => s!"{x.a}.{x.b}.{x.c}.{x.d}"⟩

structure SocketAddrV4 where
  ip : Ipv4Addr
  port : UInt16
  deriving DecidableEq, Repr

instance : ToString SocketAddrV4 := ⟨fun x => s!"{x.ip}:{x.port}"⟩

/-- A datagram with its sender, and the instant at which it was sent (which the receiver does not see).  The bytes are those
that `recv_from` delivers into the buffer, which has room for 1500. -/
structure Datagram (Addr : Type) where
  source : Addr
  bytes : List UInt8
  sent : Nat

inductive UdpOp (Addr : Type)
  | listen
  | setReadTimeout (millis : Nat)
  | sendTo (packet : List UInt8) (target : Addr)
  | recvFrom
  | now

/-- A sent packet is answered with the instant at which it leaves, which the sender does not see either. -/
abbrev UdpOp.Res {Addr : Type} : UdpOp Addr → Type
  | listen => Except IoError Unit
  | setReadTimeout _ => Except IoError Unit
  | sendTo .. => Nat
  | recvFrom => Except IoError (Datagram Addr)
  | now => Nat

/-- Code that holds a UDP socket. -/
abbrev UdpM (Addr : Type) := Prog (UdpOp Addr) UdpOp.Res

namespace UdpM

variable {Addr : Type}

def listen : UdpM Addr (Except IoError Unit) := .op .listen .ret

def setReadTimeout (millis : Nat) : UdpM Addr (Except IoError Unit) :=
  .op (.setReadTimeout millis) .ret

def sendTo (packet : List UInt8) (target : Addr) : UdpM Addr Nat := .op (.sendTo packet target) .ret

def recvFrom : UdpM Addr (Except IoError (Datagram Addr)) := .op .recvFrom .ret

def now : UdpM Addr Nat := .op .now .ret

end UdpM

/-- The events of such code. -/
abbrev UdpEvent (Addr : Type) := Event (UdpOp Addr) UdpOp.Res

section Poll

variable {Addr S R : Type} (deadline : Nat) (pass : S → Except IoError (Datagram Addr) → Except R S)

/-- `while Instant::now() < deadline { match recv_from … }` with at most `n` passes.  A pass goes on with a new state, or
leaves the loop. -/
def pollUntil : Nat → S → UdpM Addr (Option (Except R S))
  | 0, _ => return none
  | n + 1, s => do
    let now ← UdpM.now
    if now < deadline then
      let received ← UdpM.recvFrom
      match pass s received with
      | .ok s => pollUntil n s
      | .error r => return some (.error r)
    else return some (.ok s)

/-- What has been received. -/
def arrivals (tr : List (UdpEvent Addr)) : List (Except IoError (Datagram Addr)) :=
  tr.filterMap fun
    | ⟨.recvFrom, r⟩ => some r
    | _ => none

/-- What the clock has shown. -/
def clock (tr : List (UdpEvent Addr)) : List Nat :=
  tr.filterMap fun
    | ⟨.now, t⟩ => some t
    | _ => none

theorem clock_append (t₁ t₂ : List (UdpEvent Addr)) : clock (t₁ ++ t₂) = clock t₁ ++ clock t₂ :=
  List.filterMap_append

theorem arrivals_append (t₁ t₂ : List (UdpEvent Addr)) : arrivals (t₁ ++ t₂) = arrivals t₁ ++ arrivals t₂ :=
  List.filterMap_append

variable {deadline pass}

/-- The events of one pass. -/
theorem run_pollUntil_succ {n : Nat} {s : S} {tr : List (UdpEvent Addr)} {out : Option (Except R S)}
    (h : Prog.Run (pollUntil deadline pass (n + 1) s) tr out) :
    (∃ t, deadline ≤ t ∧ tr = [⟨.now, t⟩] ∧ out = some (.ok s)) ∨
      ∃ t r tr', t < deadline ∧ tr = ⟨.now, t⟩ :: ⟨.recvFrom, r⟩ :: tr' ∧
        ((∃ e, pass s r = .error e ∧ tr' = [] ∧ out = some (.error e)) ∨
          ∃ s', pass s r = .ok s' ∧ Prog.Run (pollUntil deadline pass n s') tr' out) := by
  have hloop : pollUntil deadline pass (n + 1) s = .op .now fun t =>
      if t < deadline then .op .recvFrom fun r => (match pass s r with
        | .ok s => pollUntil deadline pass n s
        | .error e => .ret (some (.error e)))
      else .ret (some (.ok s)) := rfl
  rw [hloop, Prog.run_op] at h
  obtain ⟨t, t₁, rfl, h₁⟩ := h
  by_cases ht : t < deadline
  · rw [if_pos ht, Prog.run_op] at h₁
    obtain ⟨r, t₂, rfl, h₂⟩ := h₁
    refine .inr ⟨t, r, t₂, ht, rfl, ?_⟩
    cases hpass : pass s r with
    | ok s' =>
      rw [hpass] at h₂
      exact .inr ⟨s', rfl, h₂⟩
    | error e =>
      rw [hpass] at h₂
      obtain ⟨rfl, rfl⟩ := Prog.run_ret.1 h₂
      exact .inl ⟨e, rfl, rfl, rfl⟩
  · rw [if_neg ht] at h₁
    obtain ⟨rfl, rfl⟩ := Prog.run_ret.1 h₁
    exact .inl ⟨t, Nat.le_of_not_lt ht, rfl, rfl⟩

theorem run_pollUntil_done {n : Nat} {s : S} {t : Nat} (h : deadline ≤ t) :
    Prog.Run (pollUntil deadline pass (n + 1) s) [⟨.now, t⟩] (some (.ok s)) := by
  refine .op ?_
  show Prog.Run (if t < deadline then _ else _) _ _
  rw [if_neg (Nat.not_lt.2 h)]
  exact .ret _

theorem run_pollUntil_step {n : Nat} {s s' : S} {t : Nat} {r : Except IoError (Datagram Addr)}
    {tr : List (UdpEvent Addr)} {out : Option (Except R S)} (h : t < deadline) (hpass : pass s r = .ok s')
    (hrun : Prog.Run (pollUntil deadline pass n s') tr out) :
    Prog.Run (pollUntil deadline pass (n + 1) s) (⟨.now, t⟩ :: ⟨.recvFrom, r⟩ :: tr) out := by
  refine .op ?_
  show Prog.Run (if t < deadline then _ else _) _ _
  rw [if_pos h]
  refine .op ?_
  show Prog.Run (match pass s r with | .ok s => _ | .error e => _) _ _
  rw [hpass]
  exact hrun

theorem run_pollUntil_leave {n : Nat} {s : S} {t : Nat} {r : Except IoError (Datagram Addr)} {e : R}
    (h : t < deadline) (hpass : pass s r = .error e) :
    Prog.Run (pollUntil deadline pass (n + 1) s) [⟨.now, t⟩, ⟨.recvFrom, r⟩] (some (.error e)) := by
  refine .op ?_
  show Prog.Run (if t < deadline then _ else _) _ _
  rw [if_pos h]
  refine .op ?_
  show Prog.Run (match pass s r with | .ok s => _ | .error e => _) _ _
  rw [hpass]
  exact .ret _

/-- A loop that the deadline ends has folded what it received. -/
theorem run_pollUntil_ok {n : Nat} {s s' : S} {tr : List (UdpEvent Addr)}
    (h : Prog.Run (pollUntil deadline pass n s) tr (some (.ok s'))) : (arrivals tr).foldlM pass s = .ok s' := by
  induction n generalizing s tr with
  | zero => cases h
  | succ n ih =>
    rcases run_pollUntil_succ h with ⟨t, -, rfl, hout⟩ | ⟨t, r, tr', -, rfl, ⟨e, -, -, hout⟩ | ⟨s₁, hs₁, h'⟩⟩
    · cases hout
      rfl
    · cases hout
    · show (pass s r >>= fun s₁ => List.foldlM pass s₁ (arrivals tr')) = _
      rw [hs₁]
      exact ih h'

/-- A loop that a pass leaves has folded what it received before, and nothing is received after. -/
theorem run_pollUntil_error {n : Nat} {s : S} {tr : List (UdpEvent Addr)} {e : R}
    (h : Prog.Run (pollUntil deadline pass n s) tr (some (.error e))) :
    ∃ rs r s', arrivals tr = rs ++ [r] ∧ rs.foldlM pass s = .ok s' ∧ pass s' r = .error e := by
  induction n generalizing s tr with
  | zero => cases h
  | succ n ih =>
    rcases run_pollUntil_succ h with ⟨t, -, -, hout⟩ | ⟨t, r, tr', -, rfl, ⟨e', he, rfl, hout⟩ | ⟨s₁, hs₁, h'⟩⟩
    · cases hout
    · cases hout
      exact ⟨[], r, s, rfl, rfl, he⟩
    · obtain ⟨rs, r', s', hrs, hok, herr⟩ := ih h'
      refine ⟨r :: rs, r', s', congrArg (r :: ·) hrs, ?_, herr⟩
      show (pass s r >>= fun s₁ => List.foldlM pass s₁ rs) = _
      rw [hs₁]
      exact hok

/-- A loop that has used up its passes has never seen the clock at its deadline. -/
theorem run_pollUntil_none {n : Nat} {s : S} {tr : List (UdpEvent Addr)}
    (h : Prog.Run (pollUntil deadline pass n s) tr none) : (clock tr).length = n ∧ ∀ t ∈ clock tr, t < deadline := by
  induction n generalizing s tr with
  | zero =>
    cases h
    exact ⟨rfl, nofun⟩
  | succ n ih =>
    rcases run_pollUntil_succ h with ⟨t, -, -, hout⟩ | ⟨t, r, tr', ht, rfl, ⟨e, -, -, hout⟩ | ⟨s', -, h'⟩⟩
    · cases hout
    · cases hout
    · obtain ⟨hlen, hlt⟩ := ih h'
      exact ⟨congrArg (· + 1) hlen, List.forall_mem_cons.2 ⟨ht, hlt⟩⟩

/-- A loop receives, and reads the clock. -/
theorem run_pollUntil_events {n : Nat} {s : S} {tr : List (UdpEvent Addr)} {out : Option (Except R S)}
    (h : Prog.Run (pollUntil deadline pass n s) tr out) : ∀ e ∈ tr, e.1 = .now ∨ e.1 = .recvFrom := by
  induction n generalizing s tr with
  | zero =>
    cases h
    exact nofun
  | succ n ih =>
    rcases run_pollUntil_succ h with ⟨t, -, rfl, -⟩ | ⟨t, r, tr', -, rfl, ⟨e, -, rfl, -⟩ | ⟨s', -, h'⟩⟩
    · simp
    · simp
    · simpa using ih h'

end Poll

end WirelessProgrammer
