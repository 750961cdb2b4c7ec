import WirelessProgrammer.Lib.Pool

/-!
# A program beside a system

A program that is not one of the system's own operations: it performs its events at moments of its own choosing, and each
of them is answered by the state that the system has reached by then.
-/

namespace Effect

variable {Op Op' : Type} {Res : Op → Type} {Res' : Op' → Type} {S Tag G α : Type}

variable {sys : System Op Res S Tag} {answers : S → (o : Op') → Res' o → Prop} {P : Protocol Op' Res' G}

end Effect
