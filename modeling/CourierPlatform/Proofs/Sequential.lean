import CourierPlatform.Proofs.Instances

/-! Operations that execute one at a time. At most one call is live then, so what it
knows of the tables cannot be invalidated behind its back. -/
namespace CourierPlatform
open Library

def State.OneLive (s : State) : Prop :=
  ∀ (i j : Nat) (ti tj : Task), s.tasks[i]? = some ti → s.tasks[j]? = some tj → ti.settled = false →
    tj.settled = false → i = j

section
variable {env : Env} {s t : State} {l : Label}

theorem State.settled_of_idle (h : s.idle = true) {i : Nat} {task : Task}
    (found : s.tasks[i]? = some task) : task.settled = true :=
  List.all_eq_true.mp h task (List.mem_of_getElem? found)

theorem State.OneLive.of_idle (h : s.idle = true) : s.OneLive := by
  intro i j ti tj atI _ live
  rw [settled_of_idle h atI] at live
  contradiction

theorem State.OneLive.others (h : s.OneLive) {i j : Nat} {ti tj : Task}
    (atI : s.tasks[i]? = some ti) (live : ti.settled = false) (atJ : s.tasks[j]? = some tj)
    (other : j ≠ i) : tj.settled = true := by
  by_contra unsettled
  exact other (h j i tj ti atJ atI (by simpa using unsettled) live)

theorem State.OneLive.next (h : s.OneLive) (sequential : s.sequential l = true)
    (moves : Moves env s l t) : t.OneLive := by
  cases moves with
  | started request =>
    have idle : s.idle = true := by
      cases request <;> first | exact sequential | exact Bool.noConfusion sequential
    have last {i : Nat} {task : Task} (live : task.settled = false)
        (found : (s.tasks ++ [request.start env s.world.now])[i]? = some task) :
        i = s.tasks.length := by
      rw [List.getElem?_append] at found
      split at found
      next =>
        rw [settled_of_idle idle found] at live
        contradiction
      next beyond =>
        have bound := (List.getElem?_eq_some_iff.mp found).1
        simp only [List.length_singleton] at bound
        omega
    intro i j ti tj atI atJ liveI liveJ
    rw [last liveI atI, last liveJ atJ]
  | @settled i a task w' task' awaiting step =>
    have only {j : Nat} {tj : Task} (live : tj.settled = false)
        (found : (s.tasks.set i task')[j]? = some tj) : j = i := by
      rcases getElem?_set_cases found with ⟨other, before⟩ | ⟨same, -⟩
      · rw [h.others awaiting step.unsettled before other] at live
        contradiction
      · exact same
    intro j k tj tk atJ atK liveJ liveK
    rw [only liveJ atJ, only liveK atK]
  | ticked => exact h
  | itemStarted => exact Bool.noConfusion sequential
  | collected => exact Bool.noConfusion sequential
  | died => exact Bool.noConfusion sequential

theorem State.OneLive.forall_tasks {J : World → Task → Prop} (one : s.OneLive)
    (all : ∀ task ∈ s.tasks, J s.world task)
    (settled : ∀ w task, task.settled = true → J w task)
    (ticks : ∀ w ms task, J w task → J { w with now := w.now + ms } task)
    (started : ∀ request, l = .start request → J s.world (request.start env s.world.now))
    (moved : ∀ i a task w' task', l = .settle i a → s.tasks[i]? = some task →
      task.Moves env s.world a w' task' → J s.world task → J w' task')
    (sequential : s.sequential l = true) (moves : Moves env s l t) :
    ∀ task ∈ t.tasks, J t.world task := by
  cases moves with
  | started request =>
    intro task mem
    rcases List.mem_append.mp mem with earlier | new
    · exact all task earlier
    · rw [List.mem_singleton.mp new]
      exact started request rfl
  | @settled i a live w' task' awaiting step =>
    intro task mem
    obtain ⟨j, found⟩ := List.getElem?_of_mem mem
    rcases getElem?_set_cases found with ⟨other, before⟩ | ⟨rfl, rfl⟩
    · exact settled w' task (one.others awaiting step.unsettled before other)
    · exact moved j a live w' task rfl awaiting step (all live (List.mem_of_getElem? awaiting))
  | ticked ms => exact fun task mem => ticks s.world ms task (all task mem)
  | itemStarted => exact Bool.noConfusion sequential
  | collected => exact Bool.noConfusion sequential
  | died => exact Bool.noConfusion sequential

theorem Task.hold?_of_settled {task : Task} (h : task.settled = true) (x : String) :
    task.hold? x = none := by
  cases task with
  | createOrder call => cases call <;> first | rfl | exact Bool.noConfusion h
  | bulkItem _ _ call => cases call <;> first | rfl | exact Bool.noConfusion h
  | reconcile cycle => cases cycle <;> first | rfl | exact Bool.noConfusion h
  | _ => rfl

end
end CourierPlatform
