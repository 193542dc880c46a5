import CourierPlatform.Library.Lists
import CourierPlatform.Spec.SingleFlight

/-! `isAuthenticating` is the one fetch that runs, in every state of a client. -/
namespace CourierPlatform
open Js Library UrbaneBoltClient

namespace TokenClient

inductive Moves (c : TokenClient) : TokenLabel → TokenClient → Prop where
  | began : Moves c (.getAuthToken false) { c with calls := c.calls ++ [.cacheGet] }
  | forced : Moves c (.getAuthToken true)
      { c.authenticate.1 with calls := c.calls ++ [.awaiting c.authenticate.2] }
  | hit {i cachedToken} (here : c.calls[i]? = some .cacheGet)
      (text : orDefault cachedToken "" ≠ "") :
      Moves c (.cacheRead i cachedToken) (c.setCall i (.settled (.ok (orDefault cachedToken ""))))
  | missed {i cachedToken} (here : c.calls[i]? = some .cacheGet)
      (empty : orDefault cachedToken "" = "") :
      Moves c (.cacheRead i cachedToken) (c.authenticate.1.setCall i (.awaiting c.authenticate.2))
  | given {i k result} (here : c.calls[i]? = some (.awaiting k))
      (settled : c.fetches[k]? = some (.settled result)) :
      Moves c (.resume i) (c.setCall i (.settled result))
  | advanced {l k stage stage'} (here : c.fetches[k]? = some stage) (runs : stage.isSettled = false)
      (goesOn : stage'.isSettled = false) (own : l.looks c = none) : Moves c l (c.setFetch k stage')
  | settled {l k stage result} (here : c.fetches[k]? = some stage) (runs : stage.isSettled = false)
      (own : l.looks c = none) : Moves c l (c.settleFetch k result)

variable {c t u : TokenClient} {l : TokenLabel} {i j k : Nat}

theorem isSettled_answered (outcome : TokenOutcome) :
    (FetchStage.answered outcome).isSettled = false := by
  cases outcome with
  | failed responseData => rfl
  | reply data => cases found : tokenOf data <;> simp [FetchStage.answered, found, FetchStage.isSettled]

theorem Moves.of_next (stepped : tokenClient.next c l = some t) : Moves c l t := by
  change c.next l = some t at stepped
  unfold TokenClient.next at stepped
  cases l with
  | getAuthToken forceRefresh =>
    cases forceRefresh with
    | false => cases stepped; exact .began
    | true => cases stepped; exact .forced
  | cacheRead i cachedToken =>
    dsimp only at stepped
    split at stepped
    next here =>
      split at stepped
      next text => cases stepped; exact .hit here text
      next empty => cases stepped; exact .missed here (by simpa using empty)
    next => contradiction
  | resume i =>
    dsimp only at stepped
    split at stepped
    next here =>
      split at stepped
      next settled => cases stepped; exact .given here settled
      next => contradiction
    next => contradiction
  | answerFetch k outcome =>
    dsimp only at stepped
    split at stepped
    next here => cases stepped; exact .advanced here rfl (isSettled_answered outcome) rfl
    next => contradiction
  | executeFetch k =>
    dsimp only at stepped
    split at stepped
    next here => cases stepped; exact .advanced here rfl rfl rfl
    next here => cases stepped; exact .advanced here rfl rfl rfl
    next => contradiction
  | resumeFetch k =>
    dsimp only at stepped
    split at stepped
    next here => cases stepped; exact .settled here rfl rfl
    next here => cases stepped; exact .settled here rfl rfl
    next => contradiction

theorem running_iff : c.running k = true ↔
    ∃ stage, c.fetches[k]? = some stage ∧ stage.isSettled = false := by
  simp [running, Option.any_eq_true]

theorem not_running_of_settled {result : Except Thrown String}
    (settled : c.fetches[k]? = some (.settled result)) : c.running k = false := by
  simp [running, settled, FetchStage.isSettled]

theorem running_set {stage stage' : FetchStage} (here : c.fetches[k]? = some stage) :
    (c.setFetch k stage').running j = if j = k then !stage'.isSettled else c.running j := by
  by_cases same : j = k
  · subst same
    obtain ⟨bound, -⟩ := List.getElem?_eq_some_iff.mp here
    simp [running, setFetch, List.getElem?_set_self bound]
  · simp [running, setFetch, List.getElem?_set_ne (Ne.symm same), same]

def Tied (c : TokenClient) : Prop := ∀ k, c.isAuthenticating = some k ↔ c.running k = true

theorem Tied.of_same (tied : c.Tied) (flag : t.isAuthenticating = c.isAuthenticating)
    (fetches : t.fetches = c.fetches) : t.Tied := by
  intro k
  rw [flag, running, fetches]
  exact tied k

theorem Tied.idle (tied : c.Tied) (flag : c.isAuthenticating = none) (k : Nat) :
    c.running k = false := by
  rw [Bool.eq_false_iff]
  intro runs
  exact absurd (flag.symm.trans ((tied k).mpr runs)) (by simp)

theorem Tied.authenticate_cases (tied : c.Tied) :
    (∃ k, c.running k = true ∧ c.authenticate = (c, k)) ∨
    (∀ k, c.running k = false) ∧ c.authenticate =
      ({ c with isAuthenticating := some c.fetches.length, fetches := c.fetches ++ [.posted] },
        c.fetches.length) := by
  unfold authenticate
  cases flag : c.isAuthenticating with
  | some k => exact .inl ⟨k, (tied k).mp flag, rfl⟩
  | none => exact .inr ⟨tied.idle flag, rfl⟩

theorem running_append : running { c with fetches := c.fetches ++ [.posted] } j =
    if j = c.fetches.length then true else c.running j := by
  by_cases last : j = c.fetches.length
  · subst last
    simp [running, FetchStage.isSettled]
  · rw [if_neg last, running, running]
    rcases Nat.lt_or_gt_of_ne last with before | after
    · rw [List.getElem?_append_left before]
    · have beyond : (c.fetches ++ [FetchStage.posted]).length ≤ j := by
        rw [List.length_append, List.length_singleton]
        omega
      rw [List.getElem?_eq_none (Nat.le_of_lt after), List.getElem?_eq_none beyond]

theorem Tied.authenticate (tied : c.Tied) : c.authenticate.1.Tied := by
  rcases tied.authenticate_cases with ⟨k, runs, same⟩ | ⟨idle, same⟩
  · rwa [same]
  · rw [same]
    intro k
    change some c.fetches.length = some k ↔ running { c with fetches := c.fetches ++ [.posted] } k = true
    rw [running_append, idle k]
    simp [eq_comm]

theorem Tied.next (tied : c.Tied) (moves : c.Moves l t) : t.Tied := by
  cases moves with
  | began => exact tied.of_same rfl rfl
  | forced => exact tied.authenticate.of_same rfl rfl
  | hit here text => exact tied.of_same rfl rfl
  | missed here empty => exact tied.authenticate.of_same rfl rfl
  | given here settled => exact tied.of_same rfl rfl
  | advanced here runs goesOn own =>
    intro k
    rw [running_set here, goesOn]
    refine (tied k).trans ?_
    split
    next same => exact ⟨fun _ => rfl, fun _ => running_iff.mpr ⟨_, same ▸ here, runs⟩⟩
    next => rfl
  | @settled l j stage result here runs own =>
    intro k
    have flag : c.isAuthenticating = some j := (tied j).mpr (running_iff.mpr ⟨stage, here, runs⟩)
    change none = some k ↔ (c.setFetch j (.settled result)).running k = true
    rw [running_set here]
    refine iff_of_false (by simp) ?_
    split
    · simp [FetchStage.isSettled]
    next other =>
      rw [← tied k, flag]
      simp [Ne.symm other]

theorem Tied.reaches (tied : c.Tied) (reach : tokenClient.Reaches (fun _ _ => True) c t) : t.Tied :=
  reach.invariant Tied tied fun _ _ _ tied _ stepped => tied.next (.of_next stepped)

theorem Tied.init : Tied {} := by
  intro k
  simp [running]

theorem Tied.single (tied : c.Tied) (first : c.running j = true) (second : c.running k = true) :
    j = k :=
  Option.some.inj (((tied j).mpr first).symm.trans ((tied k).mpr second))

/-! ## What a step keeps -/

theorem authenticate_fetches : ∃ more, c.authenticate.1.fetches = c.fetches ++ more := by
  unfold authenticate
  cases c.isAuthenticating with
  | some k => exact ⟨[], (List.append_nil _).symm⟩
  | none => exact ⟨[.posted], rfl⟩

theorem authenticate_calls : c.authenticate.1.calls = c.calls := by
  unfold authenticate
  cases c.isAuthenticating <;> rfl

theorem Moves.keeps_settled {result : Except Thrown String} (moves : c.Moves l t)
    (settled : c.fetches[k]? = some (.settled result)) : t.fetches[k]? = some (.settled result) := by
  have bound := (List.getElem?_eq_some_iff.mp settled).1
  obtain ⟨more, fetches⟩ := authenticate_fetches (c := c)
  have other {j : Nat} {stage : FetchStage} (here : c.fetches[j]? = some stage)
      (runs : stage.isSettled = false) (stage' : FetchStage) :
      (c.fetches.set j stage')[k]? = some (.settled result) := by
    have differs : j ≠ k := by
      rintro rfl
      cases here.symm.trans settled
      contradiction
    rw [List.getElem?_set_ne differs, settled]
  cases moves with
  | began => exact settled
  | forced =>
    change c.authenticate.1.fetches[k]? = _
    rw [fetches, List.getElem?_append_left bound, settled]
  | hit here text => exact settled
  | missed here empty =>
    change c.authenticate.1.fetches[k]? = _
    rw [fetches, List.getElem?_append_left bound, settled]
  | given here given => exact settled
  | advanced here runs goesOn own => exact other here runs _
  | settled here runs own => exact other here runs _

theorem Moves.keeps_awaiting (moves : c.Moves l t) (here : c.calls[i]? = some (.awaiting k)) :
    t.calls[i]? = some (.awaiting k) ∨ ∃ result, c.fetches[k]? = some (.settled result) ∧
      t.calls[i]? = some (.settled result) := by
  have bound := (List.getElem?_eq_some_iff.mp here).1
  have other {j : Nat} (reading : c.calls[j]? = some .cacheGet) : j ≠ i := by
    rintro rfl
    cases reading.symm.trans here
  cases moves with
  | began => exact .inl (by rw [List.getElem?_append_left bound, here])
  | forced => exact .inl (by rw [List.getElem?_append_left bound, here])
  | hit reading text =>
    refine .inl ?_
    rw [setCall, List.getElem?_set_ne (other reading), here]
  | missed reading empty =>
    refine .inl ?_
    rw [setCall, authenticate_calls, List.getElem?_set_ne (other reading), here]
  | @given j k' result waiting settled =>
    by_cases same : j = i
    · subst same
      cases waiting.symm.trans here
      exact .inr ⟨result, settled, List.getElem?_set_self bound⟩
    · refine .inl ?_
      rw [setCall, List.getElem?_set_ne same, here]
  | advanced => exact .inl here
  | settled => exact .inl here

theorem Moves.keeps_result {result : Except Thrown String} (moves : c.Moves l t)
    (here : c.calls[i]? = some (.settled result)) : t.calls[i]? = some (.settled result) := by
  have bound := (List.getElem?_eq_some_iff.mp here).1
  have other {j : Nat} {call : TokenCall} (found : c.calls[j]? = some call)
      (unsettled : ∀ result, call ≠ .settled result) : j ≠ i := by
    rintro rfl
    exact unsettled result (Option.some.inj (found.symm.trans here))
  cases moves with
  | began => rw [List.getElem?_append_left bound, here]
  | forced => rw [List.getElem?_append_left bound, here]
  | hit reading text => rw [setCall, List.getElem?_set_ne (other reading (by simp)), here]
  | missed reading empty =>
    rw [setCall, authenticate_calls, List.getElem?_set_ne (other reading (by simp)), here]
  | given waiting settled => rw [setCall, List.getElem?_set_ne (other waiting (by simp)), here]
  | advanced => exact here
  | settled => exact here

theorem Gets.of_awaiting (here : c.calls[i]? = some (.awaiting k)) : c.Gets i k := by
  refine .waiting here fun result settled => ?_
  change c.next (.resume i) = _
  simp only [TokenClient.next, here, settled]

theorem Gets.next (gets : c.Gets i k) (moves : c.Moves l t) : t.Gets i k := by
  cases gets with
  | waiting here resumes =>
    rcases moves.keeps_awaiting here with still | ⟨result, settled, returned⟩
    · exact .of_awaiting still
    · exact .given (moves.keeps_settled settled) returned
  | given settled here => exact .given (moves.keeps_settled settled) (moves.keeps_result here)

theorem Gets.reaches (gets : c.Gets i k) (reach : tokenClient.Reaches (fun _ _ => True) c t) :
    t.Gets i k :=
  reach.invariant (·.Gets i k) gets fun _ _ _ gets _ stepped => gets.next (.of_next stepped)

theorem Moves.looks (moves : c.Moves l t) (looks : l.looks c = some i) :
    t.fetches = c.authenticate.1.fetches ∧ t.calls[i]? = some (.awaiting c.authenticate.2) := by
  cases moves with
  | began => contradiction
  | forced =>
    cases looks
    exact ⟨rfl, List.getElem?_concat_length⟩
  | hit here text => simp [TokenLabel.looks, text] at looks
  | @missed j cachedToken here empty =>
    have same : j = i := by simpa [TokenLabel.looks, empty] using looks
    subst same
    refine ⟨rfl, ?_⟩
    rw [setCall, authenticate_calls]
    exact getElem?_set_of_some here
  | given here settled => contradiction
  | advanced here runs goesOn own => exact absurd (own.symm.trans looks) (by simp)
  | settled here runs own => exact absurd (own.symm.trans looks) (by simp)

theorem settled_of_not_running (bound : k < c.fetches.length) (idle : c.running k = false) :
    ∃ result, c.fetches[k]? = some (.settled result) := by
  have here := List.getElem?_eq_getElem bound
  rw [running, here] at idle
  cases stage : c.fetches[k] with
  | settled result => exact ⟨result, stage ▸ here⟩
  | _ => simp [stage, FetchStage.isSettled] at idle

theorem idle_reaches (idle : ∀ k, c.running k = false)
    (reach : tokenClient.Reaches (fun _ _ => True) c t) (same : t.fetches.length = c.fetches.length)
    (k : Nat) : t.running k = false := by
  have settled := reach.invariant
    (fun t => ∀ k < c.fetches.length, ∃ result, t.fetches[k]? = some (.settled result))
    (fun k bound => settled_of_not_running bound (idle k))
    (fun a l b settled _ stepped k bound => by
      obtain ⟨result, here⟩ := settled k bound
      exact ⟨result, Moves.keeps_settled (.of_next stepped) here⟩)
  by_cases bound : k < c.fetches.length
  · obtain ⟨result, here⟩ := settled k bound
    exact not_running_of_settled here
  · have none : t.fetches[k]? = none := List.getElem?_eq_none (by omega)
    simp [running, none]

theorem Moves.clears (moves : c.Moves l t) (tied : c.Tied) (runs : c.running k = true)
    (settles : t.running k = false) : t.isAuthenticating = none := by
  have joined : c.authenticate = (c, k) := by
    rw [authenticate, (tied k).mpr runs]
  have changed {fetches : List FetchStage} (same : t.fetches = fetches)
      (kept : fetches = c.fetches) : t.isAuthenticating = none := by
    rw [running, same, kept] at settles
    exact absurd (settles.symm.trans runs) (by decide)
  cases moves with
  | began => exact changed rfl rfl
  | forced => exact changed rfl (by rw [joined])
  | hit here text => exact changed rfl rfl
  | missed here empty => exact changed rfl (by rw [joined]; rfl)
  | given here settled => exact changed rfl rfl
  | advanced here running goesOn own =>
    rw [running_set here, goesOn, runs] at settles
    simp at settles
  | settled here running own => rfl

end TokenClient

/-- At most one fetch runs, the calls that find it get what it comes to, and it leaves the flag
cleared: in every state of a client, for any calls of `getAuthToken`, any cached tokens and any answers
of the token endpoint. -/
theorem getAuthToken_single_flight {c : TokenClient}
    (reach : tokenClient.Reaches (fun _ _ => True) {} c) : c.SingleFlight := by
  have tied := TokenClient.Tied.init.reaches reach
  refine ⟨fun j k => tied.single, fun l t i k stepped looks runs => ?_, fun l t i stepped looks idle => ?_,
    fun l t k stepped runs settles u later same => ?_⟩
  · obtain ⟨fetches, here⟩ := (TokenClient.Moves.of_next stepped).looks looks
    rcases tied.authenticate_cases with ⟨j, found, joined⟩ | ⟨idle, -⟩
    · rw [joined] at fetches here
      cases tied.single found runs
      exact ⟨fetches, fun u later => (TokenClient.Gets.of_awaiting here).reaches later⟩
    · exact absurd ((idle k).symm.trans runs) (by decide)
  · obtain ⟨fetches, here⟩ := (TokenClient.Moves.of_next stepped).looks looks
    rcases tied.authenticate_cases with ⟨j, found, -⟩ | ⟨-, begun⟩
    · exact absurd ((idle j).symm.trans found) (by decide)
    · rw [begun] at fetches here
      exact ⟨fetches, fun u later => (TokenClient.Gets.of_awaiting here).reaches later⟩
  · have moves := TokenClient.Moves.of_next stepped
    have idle := TokenClient.idle_reaches ((tied.next moves).idle (moves.clears tied runs settles))
      later same
    have tied := (tied.next moves).reaches later
    cases flag : u.isAuthenticating with
    | none => rfl
    | some j => exact absurd ((idle j).symm.trans ((tied j).mp flag)) (by decide)

theorem getAuthToken_single_flight_failed : ∃ c : TokenClient, c.calls.length = 2 ∧
    c.fetches.length = 1 ∧ c.isAuthenticating = none ∧ c.SingleFlight := by
  obtain ⟨c, reach, test⟩ := Machine.Reaches.of_run_any tokenClient (fun _ _ => True) {}
    [.getAuthToken true, .getAuthToken false, .cacheRead 1 none, .answerFetch 0 (.failed none),
      .executeFetch 0, .resumeFetch 0, .resume 0, .resume 1]
    (fun c => c.calls.length = 2 && c.fetches.length = 1 && c.isAuthenticating = none) (by decide)
  simp only [Bool.and_eq_true, decide_eq_true_eq] at test
  exact ⟨c, test.1.1, test.1.2, test.2, getAuthToken_single_flight reach⟩

end CourierPlatform
