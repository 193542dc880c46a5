import CourierPlatform.Library.Termination
import CourierPlatform.Spec.Schedules

/-! The platform when no request comes in any more. -/
namespace CourierPlatform

def Label.passes : Label → Bool
  | crash _ => true
  | tick _ => true
  | _ => false

def Label.begins : Label → Bool
  | start _ => true
  | _ => false

def Label.proceeds (l : Label) : Bool := !l.passes && !l.begins

def Task.bulk? : Task → Option Nat
  | bulkItem bulk _ _ => some bulk
  | _ => none

/-- A process that dies takes a bulk call together with its items. -/
def State.wholeProcesses (s : State) : Label → Bool
  | .crash dead => (List.range s.tasks.length).all fun j =>
      ((s.tasks[j]?).bind Task.bulk?).all fun bulk => decide (j ∈ dead) = decide (bulk ∈ dead)
  | _ => true

end CourierPlatform
