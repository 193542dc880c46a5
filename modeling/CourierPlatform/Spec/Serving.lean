import CourierPlatform.Model.Server
import CourierPlatform.Spec.BatchReport
import CourierPlatform.Spec.Quiescence

/-! What a client waits for: the steps of its own call, with those of the items of its batch, and the
response. -/
namespace CourierPlatform
open Library

namespace Server

variable (s : Server)

def worksOn : Awaited → ServerLabel → Bool
  | .task i, .platform l => s.platform.ownStep i l
  | .registration i, .accounts (.registrations (.settle j _)) => j = i
  | .login i, .accounts (.settle j _) => j = i
  | _, _ => false

def worksFor (k : Nat) : ServerLabel → Bool
  | .query j _ => j = k
  | .respond j => j = k
  | l => (s.exchanges[k]?).any fun exchange =>
    exchange.response.isNone && exchange.awaited.any (s.worksOn · l)

/-- The process that was to answer the client has died. -/
def Lost (exchange : Exchange) : Prop :=
  ∃ i, exchange.awaited = some (.task i) ∧ s.platform.tasks[i]? = some .crashed

def wholeProcesses : ServerLabel → Bool
  | .platform l => s.platform.wholeProcesses l
  | _ => true

def Concluded (k : Nat) (s : Server) : Prop :=
  ∃ exchange, s.exchanges[k]? = some exchange ∧ (exchange.response.isSome = true ∨ s.Lost exchange)

end Server

end CourierPlatform
