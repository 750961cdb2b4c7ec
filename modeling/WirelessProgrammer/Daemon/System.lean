import WirelessProgrammer.Lib.Pool
import WirelessProgrammer.Daemon.Dispatch

/-!
# The daemon

The state that the daemon's threads share, the meaning of every operation on it, and the system they form: any number of
requests at any time, and a worker that takes one job after the other from its channel.  What the radio and the world
answer is arbitrary.
-/

namespace WirelessProgrammer

open Effect

/-- The state behind the locks.  `mutex` has the number of the operation that holds the radio's mutex; `working` says that
the worker is inside a job. -/
structure Shared where
  jobs : JobRegistry
  cache : Cache
  queue : List String
  working : Bool
  mutex : Option Nat
  held : Bool
  now : Nat

/-- The state in which the daemon starts. -/
def Shared.init (now : Nat) : Shared := ⟨.new, ∅, [], false, none, false, now⟩

/-- `seq` is a `u64`, and an overflow would abort the daemon. -/
def JobOp.Fits (r : JobRegistry) : JobOp → Prop
  | submit .. => r.seq + 1 < 2 ^ 64
  | _ => True

/-- The capacity of the worker's channel; sending to a full one waits. -/
def CHANNEL_CAPACITY : Nat := 8

/-- What happens when operation number `n` of the daemon performs `o`. -/
def Sem (n : Nat) (s : Shared) : (o : Op) → o.Res → Shared → Prop
  | .jobs o, r, s' => o.Fits s.jobs ∧ r = (o.run s.now s.jobs).1 ∧ s' = { s with jobs := (o.run s.now s.jobs).2 }
  | .cached driver key, r, s' => r = s.cache.lookup (driver, key) ∧ s' = s
  | .store w, _, s' => s' = { s with cache := w.apply s.cache }
  | .send id, .ok _, s' => s.queue.length < CHANNEL_CAPACITY ∧ s' = { s with queue := s.queue ++ [id] }
  | .send _, .error _, s' => s' = s
  | .recv, _, s' => s' = { s with working := false }
  | .radioHeld, r, s' => r = s.held ∧ s' = s
  | .setHeld held, _, s' => s' = { s with held := held }
  | .lock, _, s' => s.mutex = none ∧ s' = { s with mutex := some n }
  | .unlock, _, s' => s.mutex = some n ∧ s' = { s with mutex := none }
  | .radio _, _, s' => s' = s
  | .world _, _, s' => s' = s

/-- What starts an operation: a request of a client, or the worker taking a job. -/
inductive Tag
  | request (req : Request)
  | job (id : String)
  deriving DecidableEq, Repr

/-- How an operation starts. -/
def Spawn (cfg : Config) (s : Shared) : Tag → DaemonM Unit → Shared → Prop
  | .request req, p, s' => p = serve cfg req ∧ s' = s
  | .job id, p, s' => s.working = false ∧ p = workerRound cfg id ∧
      ∃ queue, s.queue = id :: queue ∧ s' = { s with queue := queue, working := true }

/-- Time passes, and the hash map of jobs changes its order. -/
def Env (s s' : Shared) : Prop :=
  ∃ (now : Nat) (jobs : AList fun _ : String => JobRecord), s.now ≤ now ∧ jobs.entries.Perm s.jobs.jobs.entries ∧
    s' = { s with now := now, jobs := { s.jobs with jobs := jobs } }

def daemon (cfg : Config) : System Op Op.Res Shared Tag where
  sem := Sem
  spawn := Spawn cfg
  env := Env

/-- Settings of a daemon for the runs that show something: codecs that read nothing, and no overrides. -/
def Config.plain : Config := ⟨"0", none, none, none, none, ⟨fun _ => ⟨[], none⟩, fun _ => .error "", fun _ => []⟩⟩

end WirelessProgrammer
