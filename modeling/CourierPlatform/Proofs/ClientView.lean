import CourierPlatform.Proofs.ConcurrentClient
import CourierPlatform.Proofs.SingleFlight
import CourierPlatform.Proofs.TokenRefresh

/-! Among the clients of any number of processes each is a `tokenClient` of its own: its fetches, its flag
and the `getAuthToken` calls that its requests wait for. -/
namespace CourierPlatform
open Js Library UrbaneBoltClient

def RequestCall.tokenCall? (place : Nat → Nat) : RequestCall → Option TokenCall
  | cacheGet _ => some .cacheGet
  | cacheRead _ _ => some .cacheGet
  | authenticating _ _ fetch => some (.awaiting (place fetch))
  | _ => none

namespace ClientsState

section
variable (c : Nat) (s : ClientsState)

def fetchesOf : List FetchStage := (s.fetches.filter (·.client = c)).map (·.stage)

/-- How many of them have begun before fetch `k`. -/
def place (k : Nat) : Nat := (s.fetches.take k).countP (·.client = c)

def Owns (k : Nat) : Prop := ∃ fetch, s.fetches[k]? = some fetch ∧ fetch.client = c

def tokenCall? (i : Nat) : Option TokenCall :=
  s.calls[i]?.bind fun call => if call.1 = c then call.2.tokenCall? (s.place c) else none

/-- The client is at `t`, where request `i` waits for call `turn i`. -/
structure Runs (turn : Nat → Nat) (t : TokenClient) : Prop where
  flag : t.isAuthenticating = (s.isAuthenticating c).map (s.place c)
  fetches : t.fetches = s.fetchesOf c
  owned : ∀ k, s.isAuthenticating c = some k → s.Owns c k
  waited : ∀ (i : Nat) retries forceRefresh k,
    s.calls[i]? = some (c, .authenticating retries forceRefresh k) → s.Owns c k
  calls : ∀ (i : Nat) call, s.tokenCall? c i = some call → t.calls[turn i]? = some call
  distinct : ∀ i j, (s.tokenCall? c i).isSome → (s.tokenCall? c j).isSome → turn i = turn j → i = j

def startFetch (startedBy : Nat) : ClientsState :=
  { s with
    isAuthenticating := fun d => if d = c then some s.fetches.length else s.isAuthenticating d
    fetches := s.fetches ++ [⟨c, startedBy, .posted⟩] }

/-- No request waits for a fetch, and none has begun. -/
structure Fresh : Prop where
  fetches : s.fetches = []
  flags : ∀ c, s.isAuthenticating c = none
  calls : ∀ (i client : Nat) retries forceRefresh k,
    s.calls[i]? ≠ some (client, .authenticating retries forceRefresh k)

end

section
variable {c client i j k n startedBy : Nat} {s s' : ClientsState} {turn : Nat → Nat} {t t' : TokenClient}
  {call : RequestCall} {tokenCall : TokenCall} {stage stage' : FetchStage} {fetch : TokenFetch}
  {retries : RetryState} {forceRefresh : Bool} {config : ClientConfig} {l : ClientsLabel}

/-! ## The fetches of a client -/

theorem getElem?_fetchesOf (found : s.fetches[k]? = some fetch) (own : fetch.client = c) :
    (s.fetchesOf c)[s.place c k]? = some fetch.stage := by
  have passes : decide (fetch.client = c) = true := decide_eq_true own
  rw [fetchesOf, List.getElem?_map, place, getElem?_filter_of_getElem? found passes]
  rfl

theorem place_lt (own : s.Owns c j) (before : j < k) : s.place c j < s.place c k := by
  obtain ⟨fetch, found, mine⟩ := own
  exact countP_take_lt found (decide_eq_true mine) before

theorem place_injective (first : s.Owns c j) (second : s.Owns c k) (same : s.place c j = s.place c k) :
    j = k := by
  rcases Nat.lt_trichotomy j k with before | rfl | after
  · exact absurd same (Nat.ne_of_lt (place_lt first before))
  · rfl
  · exact absurd same.symm (Nat.ne_of_lt (place_lt second after))

theorem kept_of_append (fetches : s'.fetches = s.fetches ++ [fetch]) (k : Nat) (own : s.Owns c k) :
    s'.Owns c k ∧ s'.place c k = s.place c k := by
  obtain ⟨before, found, mine⟩ := own
  have inside := (List.getElem?_eq_some_iff.mp found).1
  refine ⟨⟨before, ?_, mine⟩, ?_⟩
  · rw [fetches, List.getElem?_append_left inside, found]
  · rw [place, place, fetches, List.take_append_of_le_length (Nat.le_of_lt inside)]

theorem kept_of_set (found : s.fetches[k]? = some ⟨client, startedBy, stage⟩)
    (fetches : s'.fetches = s.fetches.set k ⟨client, startedBy, stage'⟩) (j : Nat) :
    s'.place c j = s.place c j ∧ (s.Owns c j → s'.Owns c j) := by
  constructor
  · rw [place, place, fetches]
    refine countP_take_set found ?_ j
    rfl
  · rintro ⟨before, here, mine⟩
    unfold Owns
    rw [fetches]
    by_cases same : k = j
    · subst same
      cases found.symm.trans here
      exact ⟨_, getElem?_set_of_some found, mine⟩
    · exact ⟨before, (List.getElem?_set_ne same).trans here, mine⟩

namespace Runs

theorem refetch (h : s.Runs c turn t) (calls : s'.calls = s.calls) (calls' : t'.calls = t.calls)
    (flag : t'.isAuthenticating = (s'.isAuthenticating c).map (s'.place c))
    (fetches : t'.fetches = s'.fetchesOf c)
    (owned : ∀ k, s'.isAuthenticating c = some k → s'.Owns c k)
    (kept : ∀ k, s.Owns c k → s'.Owns c k ∧ s'.place c k = s.place c k) : s'.Runs c turn t' := by
  have same (i : Nat) : s'.tokenCall? c i = s.tokenCall? c i := by
    unfold tokenCall?
    rw [calls]
    cases here : s.calls[i]? with
    | none => rfl
    | some entry =>
      obtain ⟨client, call⟩ := entry
      by_cases mine : client = c
      · subst mine
        cases call with
        | authenticating retries forceRefresh k =>
          simp [RequestCall.tokenCall?, (kept k (h.waited i retries forceRefresh k here)).2]
        | _ => simp [RequestCall.tokenCall?]
      · simp [mine]
  refine ⟨flag, fetches, owned, ?_, ?_, ?_⟩
  · intro i retries forceRefresh k here
    rw [calls] at here
    exact (kept k (h.waited i retries forceRefresh k here)).1
  · intro i call here
    rw [same] at here
    rw [calls']
    exact h.calls i call here
  · intro i j first second
    rw [same] at first second
    exact h.distinct i j first second

theorem place_length (h : s.Runs c turn t) :
    (s.startFetch c startedBy).place c s.fetches.length = t.fetches.length := by
  rw [h.fetches, fetchesOf, List.length_map, ← List.countP_eq_length_filter, place, startFetch,
    List.take_left]

theorem start (h : s.Runs c turn t) (startedBy : Nat) (idle : s.isAuthenticating client = none) :
    (s.startFetch client startedBy).Runs c turn (if client = c then t.authenticate.1 else t) := by
  have kept (k : Nat) (mine : s.Owns c k) : (s.startFetch client startedBy).Owns c k ∧
      (s.startFetch client startedBy).place c k = s.place c k := kept_of_append rfl k mine
  by_cases own : client = c
  · subst own
    have flag : t.isAuthenticating = none := by rw [h.flag, idle]; rfl
    have length : (s.startFetch client startedBy).place client s.fetches.length = t.fetches.length :=
      h.place_length
    rw [if_pos rfl, TokenClient.authenticate, flag]
    refine h.refetch rfl rfl ?_ ?_ ?_ kept
    · change some t.fetches.length = Option.map _ (if client = client then some s.fetches.length else _)
      rw [if_pos rfl, Option.map_some, length]
    · simp [startFetch, fetchesOf, h.fetches]
    · intro k same
      simp only [startFetch, if_true, Option.some.injEq] at same
      subst same
      exact ⟨_, List.getElem?_concat_length, rfl⟩
  · have flag : (s.startFetch client startedBy).isAuthenticating c = s.isAuthenticating c :=
      if_neg (Ne.symm own)
    rw [if_neg own]
    refine h.refetch rfl rfl ?_ ?_ ?_ kept
    · rw [flag, h.flag]
      exact Option.map_congr fun k same => (kept k (h.owned k same)).2.symm
    · simp [startFetch, fetchesOf, h.fetches, own]
    · intro k same
      rw [flag] at same
      exact (kept k (h.owned k same)).1

theorem setFetch (h : s.Runs c turn t) (found : s.fetches[k]? = some ⟨client, startedBy, stage⟩) :
    (s.setFetch k ⟨client, startedBy, stage'⟩).Runs c turn
      (if client = c then t.setFetch (s.place c k) stage' else t) := by
  have kept (j : Nat) : (s.setFetch k ⟨client, startedBy, stage'⟩).place c j = s.place c j ∧
      (s.Owns c j → (s.setFetch k ⟨client, startedBy, stage'⟩).Owns c j) := kept_of_set found rfl j
  have flag : t.isAuthenticating =
      (s.isAuthenticating c).map ((s.setFetch k ⟨client, startedBy, stage'⟩).place c) := by
    rw [h.flag, funext fun j => (kept j).1]
  have owned (j : Nat) (same : s.isAuthenticating c = some j) := (kept j).2 (h.owned j same)
  by_cases own : client = c
  · rw [if_pos own]
    refine h.refetch rfl rfl flag ?_ owned fun j mine => ⟨(kept j).2 mine, (kept j).1⟩
    rw [TokenClient.setFetch, h.fetches, fetchesOf, fetchesOf, ClientsState.setFetch,
      filter_set_of_pos found (decide_eq_true own) (decide_eq_true own), List.map_set]
    rfl
  · rw [if_neg own]
    refine h.refetch rfl rfl flag ?_ owned fun j mine => ⟨(kept j).2 mine, (kept j).1⟩
    rw [h.fetches, fetchesOf, fetchesOf, ClientsState.setFetch,
      filter_set_of_neg found (decide_eq_false own) (decide_eq_false own)]

theorem clear (h : s.Runs c turn t) (client : Nat) :
    Runs c { s with isAuthenticating := fun d => if d = client then none else s.isAuthenticating d } turn
      (if client = c then { t with isAuthenticating := none } else t) := by
  by_cases own : client = c
  · subst own
    rw [if_pos rfl]
    exact h.refetch rfl rfl (by simp) h.fetches (by simp) fun k mine => ⟨mine, rfl⟩
  · have other : ¬ c = client := Ne.symm own
    rw [if_neg own]
    have flag : (if c = client then none else s.isAuthenticating c) = s.isAuthenticating c := if_neg other
    exact h.refetch rfl rfl (h.flag.trans (congrArg (Option.map (s.place c)) flag.symm)) h.fetches
      (fun k here => h.owned k (flag.symm.trans here)) fun k mine => ⟨mine, rfl⟩

/-! ## The calls of a client -/

theorem setCall (h : s.Runs c turn t) (flag : t'.isAuthenticating = t.isAuthenticating)
    (fetches : t'.fetches = t.fetches)
    (waited : client = c → ∀ retries forceRefresh k,
      call = .authenticating retries forceRefresh k → s.Owns c k)
    (own : client = c → ∀ tokenCall, call.tokenCall? (s.place c) = some tokenCall →
      t'.calls[n]? = some tokenCall)
    (others : ∀ j ≠ i, ∀ tokenCall, s.tokenCall? c j = some tokenCall →
      t'.calls[turn j]? = some tokenCall ∧ turn j ≠ n) :
    (s.setCall i client call).Runs c (Function.update turn i n) t' := by
  have same (j : Nat) (tokenCall : TokenCall)
      (here : (s.setCall i client call).tokenCall? c j = some tokenCall) :
      j ≠ i ∧ s.tokenCall? c j = some tokenCall ∨
        j = i ∧ client = c ∧ call.tokenCall? (s.place c) = some tokenCall := by
    obtain ⟨⟨client', call'⟩, found, waits⟩ := Option.bind_eq_some_iff.mp here
    rcases getElem?_set_cases found with ⟨other, found⟩ | ⟨rfl, same⟩
    · exact .inl ⟨other, Option.bind_eq_some_iff.mpr ⟨_, found, waits⟩⟩
    · cases same
      split at waits
      next mine => exact .inr ⟨rfl, mine, waits⟩
      next => contradiction
  have apart (j k : Nat) (first : ((s.setCall i client call).tokenCall? c j).isSome)
      (second : ((s.setCall i client call).tokenCall? c k).isSome)
      (turns : Function.update turn i n j = Function.update turn i n k) (mover : j = i) : j = k := by
    by_contra other
    obtain ⟨tokenCall, second⟩ := Option.isSome_iff_exists.mp second
    rcases same k tokenCall second with ⟨away, before⟩ | ⟨here, -⟩
    · rw [mover, Function.update_self, Function.update_of_ne away] at turns
      exact (others k away tokenCall before).2 turns.symm
    · exact other (mover.trans here.symm)
  refine ⟨flag.trans h.flag, fetches.trans h.fetches, h.owned, ?_, ?_, ?_⟩
  · intro j retries forceRefresh k here
    rcases getElem?_set_cases here with ⟨-, here⟩ | ⟨-, same⟩
    · exact h.waited j retries forceRefresh k here
    · cases same
      exact waited rfl retries forceRefresh k rfl
  · intro j tokenCall here
    rcases same j tokenCall here with ⟨away, before⟩ | ⟨rfl, mine, waits⟩
    · rw [Function.update_of_ne away]
      exact (others j away tokenCall before).1
    · rw [Function.update_self]
      exact own mine tokenCall waits
  · intro j k first second turns
    by_cases mover : j = i
    · exact apart j k first second turns mover
    by_cases mover' : k = i
    · exact (apart k j second first turns.symm mover').symm
    obtain ⟨call₁, here⟩ := Option.isSome_iff_exists.mp first
    obtain ⟨call₂, there⟩ := Option.isSome_iff_exists.mp second
    rw [Function.update_of_ne mover, Function.update_of_ne mover'] at turns
    rcases same j call₁ here with ⟨-, before⟩ | ⟨same, -⟩
    · rcases same k call₂ there with ⟨-, before'⟩ | ⟨same, -⟩
      · exact h.distinct j k (by rw [before]; rfl) (by rw [before']; rfl) turns
      · exact absurd same mover'
    · exact absurd same mover

theorem congr (h : s.Runs c turn t) (flags : s'.isAuthenticating = s.isAuthenticating)
    (fetches : s'.fetches = s.fetches) (calls : s'.calls = s.calls) : s'.Runs c turn t := by
  cases s
  cases s'
  cases flags
  cases fetches
  cases calls
  exact ⟨h.flag, h.fetches, h.owned, h.waited, h.calls, h.distinct⟩

theorem turn_eq (h : s.Runs c turn t) (here : s.calls[i]? = some (c, call))
    (waits : call.tokenCall? (s.place c) = some tokenCall) :
    s.tokenCall? c i = some tokenCall ∧ t.calls[turn i]? = some tokenCall := by
  have same : s.tokenCall? c i = some tokenCall := by
    rw [tokenCall?, here, Option.bind_some, if_pos rfl, waits]
  exact ⟨same, h.calls i tokenCall same⟩

theorem leaves (h : s.Runs c turn t) (i : Nat)
    (idle : client = c → call.tokenCall? (s.place c) = none) :
    ∃ turn', (s.setCall i client call).Runs c turn' t := by
  refine ⟨_, h.setCall (n := t.calls.length) rfl rfl ?_ ?_ ?_⟩
  · rintro own retries forceRefresh k rfl
    exact absurd (idle own) (by simp [RequestCall.tokenCall?])
  · intro own tokenCall waits
    exact absurd (waits.symm.trans (idle own)) (by simp)
  · intro j _ tokenCall found
    have here := h.calls j tokenCall found
    exact ⟨here, Nat.ne_of_lt (List.getElem?_eq_some_iff.mp here).1⟩

theorem begins (h : s.Runs c turn t) (i : Nat) (call : RequestCall)
    (waits : call.tokenCall? (s.place c) = some tokenCall)
    (waited : ∀ retries forceRefresh k, call = .authenticating retries forceRefresh k → s.Owns c k) :
    ∃ turn', (s.setCall i c call).Runs c turn' { t with calls := t.calls ++ [tokenCall] } := by
  refine ⟨_, h.setCall (n := t.calls.length) rfl rfl (fun _ => waited) ?_ ?_⟩
  · intro _ other same
    cases waits.symm.trans same
    exact List.getElem?_concat_length
  · intro j _ other found
    have here := h.calls j other found
    have inside := (List.getElem?_eq_some_iff.mp here).1
    exact ⟨(List.getElem?_append_left inside).trans here, Nat.ne_of_lt inside⟩

theorem turns (h : s.Runs c turn t) (pending : (s.tokenCall? c i).isSome)
    (waits : ∀ other, call.tokenCall? (s.place c) = some other → other = tokenCall)
    (waited : ∀ retries forceRefresh k, call = .authenticating retries forceRefresh k → s.Owns c k) :
    ∃ turn', (s.setCall i c call).Runs c turn' (t.setCall (turn i) tokenCall) := by
  obtain ⟨before, waiting⟩ := Option.isSome_iff_exists.mp pending
  have inside := (List.getElem?_eq_some_iff.mp (h.calls i before waiting)).1
  refine ⟨_, h.setCall (n := turn i) rfl rfl (fun _ => waited) ?_ ?_⟩
  · intro _ other same
    rw [waits other same]
    exact List.getElem?_set_self inside
  · intro j away other found
    have apart : turn j ≠ turn i := fun same =>
      away (h.distinct j i (by rw [found]; rfl) pending same)
    exact ⟨(List.getElem?_set_ne apart.symm).trans (h.calls j other found), apart⟩

theorem resumes {owner : Nat} {result : Except Thrown String} (h : s.Runs c turn t)
    (here : s.calls[i]? = some (c, .authenticating retries forceRefresh k))
    (settled : s.fetches[k]? = some ⟨owner, startedBy, .settled result⟩) :
    tokenClient.next t (.resume (turn i)) = some (t.setCall (turn i) (.settled result)) := by
  obtain ⟨fetch, found, own⟩ := h.waited i retries forceRefresh k here
  have there := getElem?_fetchesOf found own
  cases settled.symm.trans found
  rw [← h.fetches] at there
  have waiting := (h.turn_eq here rfl).2
  change t.next (.resume (turn i)) = _
  simp only [TokenClient.next, waiting, there]

end Runs

theorem tokenCall?_failed {place : Nat → Nat} {error : Thrown} :
    (RequestCall.failed config retries error).tokenCall? place = none := by
  unfold RequestCall.failed RequestCall.attemptFailed
  cases retries.reauthenticated <;> dsimp only <;> repeat' split
  all_goals rfl

theorem tokenCall?_answered {place : Nat → Nat} {token : String} {outcome : HttpOutcome} :
    (RequestCall.answered config retries token outcome).tokenCall? place = none := by
  cases outcome with
  | reply data => rfl
  | exception message => exact tokenCall?_failed
  | axiosError error =>
    unfold RequestCall.answered
    dsimp only
    split
    · rfl
    · split <;> exact tokenCall?_failed

namespace Runs

theorem authenticate (h : s.Runs c turn t) (i : Nat) (retries : RetryState) (forceRefresh : Bool) :
    ∃ (s₁ : ClientsState) (k : Nat), s₁.calls = s.calls ∧ s₁.Runs c turn t.authenticate.1 ∧ s₁.Owns c k ∧
      s₁.place c k = t.authenticate.2 ∧ s.authenticate i c retries forceRefresh =
        s₁.setCall i c (.authenticating retries forceRefresh k) := by
  cases flag : s.isAuthenticating c with
  | some k =>
    have joined : t.authenticate = (t, s.place c k) := by
      rw [TokenClient.authenticate, h.flag, flag]
      rfl
    rw [joined]
    exact ⟨s, k, rfl, h, h.owned k flag, rfl, by simp only [ClientsState.authenticate, flag]⟩
  | none =>
    have idle : t.isAuthenticating = none := by rw [h.flag, flag]; rfl
    have started := h.start i flag
    rw [if_pos rfl] at started
    refine ⟨s.startFetch c i, s.fetches.length, rfl, started, ⟨_, List.getElem?_concat_length, rfl⟩, ?_, ?_⟩
    · rw [TokenClient.authenticate, idle]
      exact h.place_length
    · simp only [ClientsState.authenticate, flag]
      rfl

theorem authenticate_other (h : s.Runs c turn t) (other : client ≠ c) :
    ∃ turn', (s.authenticate i client retries forceRefresh).Runs c turn' t := by
  cases flag : s.isAuthenticating client with
  | some k =>
    simp only [ClientsState.authenticate, flag]
    exact h.leaves i fun own => absurd own other
  | none =>
    have started := h.start i flag
    rw [if_neg other] at started
    obtain ⟨turn', runs⟩ : ∃ turn', ((s.startFetch client i).setCall i client
        (.authenticating retries forceRefresh s.fetches.length)).Runs c turn' t :=
      started.leaves i fun own => absurd own other
    refine ⟨turn', runs.congr ?_ ?_ ?_⟩ <;> simp only [ClientsState.authenticate, flag] <;> rfl

theorem reads (h : s.Runs c turn t) (awaiting : s.calls[i]? = some (c, .cacheGet retries))
    (cachedToken : Option String) :
    ∃ turn', (s.setCall i c (.cacheRead retries cachedToken)).Runs c turn' t := by
  obtain ⟨waits, here⟩ := h.turn_eq awaiting rfl
  obtain ⟨inside, same⟩ := List.getElem?_eq_some_iff.mp here
  have unchanged : t.setCall (turn i) .cacheGet = t := by
    rw [TokenClient.setCall, ← same, List.set_getElem_self]
  rw [← unchanged]
  apply h.turns (by rw [waits]; rfl)
  · rintro _ ⟨⟩
    rfl
  · rintro _ _ _ ⟨⟩

theorem misses {cachedToken : Option String} (h : s.Runs c turn t)
    (awaiting : s.calls[i]? = some (c, .cacheRead retries cachedToken))
    (empty : ∀ token ∈ cachedToken, token = "") :
    ∃ turn' t', tokenClient.next t (.cacheRead (turn i) cachedToken) = some t' ∧
      (s.authenticate i c retries false).Runs c turn' t' := by
  obtain ⟨waits, here⟩ := h.turn_eq awaiting rfl
  obtain ⟨s₁, k, calls, h₁, owned, place, same⟩ := h.authenticate i retries false
  have pending : (s₁.tokenCall? c i).isSome := by
    rw [tokenCall?, calls, awaiting]
    simp [RequestCall.tokenCall?]
  obtain ⟨turn', runs⟩ : ∃ turn', (s₁.setCall i c (.authenticating retries false k)).Runs c turn'
      (t.authenticate.1.setCall (turn i) (.awaiting t.authenticate.2)) := by
    refine h₁.turns pending ?_ ?_
    · rintro _ ⟨⟩
      rw [place]
    · rintro _ _ _ ⟨⟩
      exact owned
  have missing : orDefault cachedToken "" = "" := by
    cases cachedToken with
    | none => rfl
    | some token => rw [empty token rfl]; rfl
  refine ⟨turn', _, ?_, same ▸ runs⟩
  change t.next (.cacheRead (turn i) cachedToken) = _
  simp only [TokenClient.next, here, missing, ne_eq, not_true_eq_false, if_false]

theorem hits {token : String} (h : s.Runs c turn t)
    (awaiting : s.calls[i]? = some (c, .cacheRead retries (some token))) (text : token ≠ "") :
    tokenClient.next t (.cacheRead (turn i) (some token)) =
      some (t.setCall (turn i) (.settled (.ok token))) := by
  have here := (h.turn_eq awaiting rfl).2
  have read : orDefault (some token) "" = token := if_neg text
  change t.next (.cacheRead (turn i) (some token)) = _
  simp only [TokenClient.next, here, read, ne_eq, text, not_false_eq_true, if_true]

theorem forces (h : s.Runs c turn t) (i : Nat) (retries : RetryState) :
    ∃ turn' t', tokenClient.next t (.getAuthToken true) = some t' ∧
      (s.authenticate i c retries true).Runs c turn' t' := by
  obtain ⟨s₁, k, calls, h₁, owned, place, same⟩ := h.authenticate i retries true
  obtain ⟨turn', runs⟩ : ∃ turn', (s₁.setCall i c (.authenticating retries true k)).Runs c turn'
      { t.authenticate.1 with calls := t.authenticate.1.calls ++ [.awaiting t.authenticate.2] } := by
    refine h₁.begins i _ (by rw [RequestCall.tokenCall?, place]) ?_
    rintro _ _ _ ⟨⟩
    exact owned
  rw [TokenClient.authenticate_calls] at runs
  exact ⟨turn', _, rfl, same ▸ runs⟩

theorem advances (h : s.Runs c turn t) (found : s.fetches[k]? = some ⟨client, startedBy, stage⟩)
    (stage' : FetchStage) (label : Nat → TokenLabel)
    (stepped : t.fetches[s.place c k]? = some stage →
      tokenClient.next t (label (s.place c k)) = some (t.setFetch (s.place c k) stage')) :
    ∃ t', tokenClient.Reaches (fun _ _ => True) t t' ∧
      (s.setFetch k ⟨client, startedBy, stage'⟩).Runs c turn t' := by
  refine ⟨_, ?_, h.setFetch found⟩
  split
  next own =>
    have there := getElem?_fetchesOf found own
    rw [← h.fetches] at there
    exact .step (label (s.place c k)) .refl trivial (stepped there)
  next => exact .refl

theorem settles (h : s.Runs c turn t) (found : s.fetches[k]? = some ⟨client, startedBy, stage⟩)
    (result : Except Thrown String)
    (stepped : t.fetches[s.place c k]? = some stage →
      tokenClient.next t (.resumeFetch (s.place c k)) = some (t.settleFetch (s.place c k) result)) :
    ∃ t', tokenClient.Reaches (fun _ _ => True) t t' ∧
      (s.settleFetch k client startedBy result).Runs c turn t' := by
  refine ⟨_, ?_, (h.setFetch found).clear client⟩
  split
  next own =>
    have there := getElem?_fetchesOf found own
    rw [← h.fetches] at there
    exact .step (.resumeFetch (s.place c k)) .refl trivial (stepped there)
  next => exact .refl

end Runs

/-- A step of the processes is a step of the client, or two, or none. -/
theorem Runs.next (h : s.Runs c turn t) (moves : Moves config s l s') :
    ∃ t', tokenClient.Reaches (fun _ _ => True) t t' ∧ ∃ turn', s'.Runs c turn' t' := by
  have one {label : TokenLabel} {t' : TokenClient} (stepped : tokenClient.next t label = some t') :
      tokenClient.Reaches (fun _ _ => True) t t' := .step label .refl trivial stepped
  have ends {i : Nat} {before call : RequestCall} {waiting tokenCall : TokenCall}
      (awaiting : s.calls[i]? = some (c, before))
      (waits : before.tokenCall? (s.place c) = some waiting)
      (idle : call.tokenCall? (s.place c) = none) :
      ∃ turn', (s.setCall i c call).Runs c turn' (t.setCall (turn i) tokenCall) := by
    apply h.turns (by rw [(h.turn_eq awaiting waits).1]; rfl)
    · intro other waits
      exact absurd (waits.symm.trans idle) (by simp)
    · rintro retries forceRefresh k rfl
      contradiction
  have other {i client : Nat} {call : RequestCall} (apart : ¬ client = c) :
      ∃ turn', (s.setCall i client call).Runs c turn' t := h.leaves i fun own => absurd own apart
  cases moves with
  | answered awaiting =>
    obtain ⟨turn', runs⟩ := h.leaves _ fun _ => tokenCall?_answered
    exact ⟨t, .refl, turn', runs⟩
  | @read i client retries awaiting =>
    by_cases own : client = c
    · subst own
      obtain ⟨turn', runs⟩ := h.reads awaiting s.cache
      exact ⟨t, .refl, turn', runs⟩
    · obtain ⟨turn', runs⟩ := other own
      exact ⟨t, .refl, turn', runs⟩
  | @revoked i client retries token awaiting =>
    obtain ⟨turn', runs⟩ : ∃ turn', (s.setCall i client (.cacheDeleted retries)).Runs c turn' t :=
      h.leaves i fun _ => rfl
    exact ⟨t, .refl, turn', runs.congr rfl rfl rfl⟩
  | @hit i client retries token awaiting text =>
    by_cases own : client = c
    · subst own
      obtain ⟨turn', runs⟩ := ends awaiting rfl
        (show (RequestCall.sent retries token).tokenCall? (s.place client) = none from rfl)
      exact ⟨_, one (h.hits awaiting text), turn', runs.congr rfl rfl rfl⟩
    · obtain ⟨turn', runs⟩ := other own
      exact ⟨t, .refl, turn', runs.congr rfl rfl rfl⟩
  | @missed i client retries cachedToken awaiting empty =>
    by_cases own : client = c
    · subst own
      obtain ⟨turn', t', stepped, runs⟩ := h.misses awaiting empty
      exact ⟨t', one stepped, turn', runs⟩
    · obtain ⟨turn', runs⟩ := h.authenticate_other own
      exact ⟨t, .refl, turn', runs⟩
  | @deleted i client retries awaiting =>
    by_cases own : client = c
    · subst own
      obtain ⟨turn', t', stepped, runs⟩ := h.forces i retries
      exact ⟨t', one stepped, turn', runs⟩
    · obtain ⟨turn', runs⟩ := h.authenticate_other own
      exact ⟨t, .refl, turn', runs⟩
  | @refreshed i client retries k owner startedBy token awaiting settled =>
    by_cases own : client = c
    · subst own
      -- the forced call returns, and the `executeCall` of the new request makes the next one
      obtain ⟨middle, returned⟩ := ends awaiting rfl
        (show (RequestCall.sleeping retries).tokenCall? (s.place client) = none from rfl)
      obtain ⟨turn', runs⟩ := returned.begins i (.cacheGet { retries with reauthenticated := some 1 }) rfl
        fun _ _ _ => RequestCall.noConfusion
      exact ⟨_, (one (h.resumes awaiting settled)).step (.getAuthToken false) trivial rfl, turn',
        runs.congr rfl rfl (List.set_set ..).symm⟩
    · obtain ⟨turn', runs⟩ := other own
      exact ⟨t, .refl, turn', runs⟩
  | @authenticated i client retries k owner startedBy token awaiting settled =>
    by_cases own : client = c
    · subst own
      obtain ⟨turn', runs⟩ := ends awaiting rfl
        (show (RequestCall.sent retries token).tokenCall? (s.place client) = none from rfl)
      exact ⟨_, one (h.resumes awaiting settled), turn', runs.congr rfl rfl rfl⟩
    · obtain ⟨turn', runs⟩ := other own
      exact ⟨t, .refl, turn', runs.congr rfl rfl rfl⟩
  | @denied i client retries forceRefresh k owner startedBy error awaiting settled =>
    by_cases own : client = c
    · subst own
      obtain ⟨turn', runs⟩ := ends awaiting rfl tokenCall?_failed
      exact ⟨_, one (h.resumes awaiting settled), turn', runs⟩
    · obtain ⟨turn', runs⟩ := other own
      exact ⟨t, .refl, turn', runs⟩
  | @awoken i client retries awaiting =>
    by_cases own : client = c
    · subst own
      obtain ⟨turn', runs⟩ := h.begins i (.cacheGet retries) rfl fun _ _ _ => RequestCall.noConfusion
      exact ⟨_, .step (.getAuthToken false) .refl trivial rfl, turn', runs⟩
    · obtain ⟨turn', runs⟩ := other own
      exact ⟨t, .refl, turn', runs⟩
  | @fetchAnswered k client startedBy outcome awaiting =>
    obtain ⟨t', steps, runs⟩ := h.advances awaiting (.answered outcome) (.answerFetch · outcome) fun there => by
      simp only [tokenClient, TokenClient.next, there]
    exact ⟨t', steps, turn, runs⟩
  | @stored k client startedBy token awaiting =>
    obtain ⟨t', steps, runs⟩ := h.advances awaiting (.cacheStored token) .executeFetch fun there => by
      simp only [tokenClient, TokenClient.next, there]
    exact ⟨t', steps, turn, runs.congr rfl rfl rfl⟩
  | @cleared k client startedBy error awaiting =>
    obtain ⟨t', steps, runs⟩ := h.advances awaiting (.cacheDeleted error) .executeFetch fun there => by
      simp only [tokenClient, TokenClient.next, there]
    exact ⟨t', steps, turn, runs.congr rfl rfl rfl⟩
  | @fetched k client startedBy token awaiting =>
    obtain ⟨t', steps, runs⟩ := h.settles awaiting (.ok token) fun there => by
      simp only [tokenClient, TokenClient.next, there]
    exact ⟨t', steps, turn, runs⟩
  | @fetchFailed k client startedBy error awaiting =>
    obtain ⟨t', steps, runs⟩ := h.settles awaiting (.error error) fun there => by
      simp only [tokenClient, TokenClient.next, there]
    exact ⟨t', steps, turn, runs⟩
  | expired => exact ⟨t, .refl, turn, h.congr rfl rfl rfl⟩

/-! ## Runs -/

theorem reaches_replicate (n : Nat) :
    tokenClient.Reaches (fun _ _ => True) {} { calls := List.replicate n .cacheGet } := by
  induction n with
  | zero => exact .refl
  | succ n ih =>
    rw [List.replicate_succ']
    exact ih.step (.getAuthToken false) trivial rfl

theorem fresh_sentWith (old : String) (cached : Bool) (calls : List (Nat × Nat)) :
    (sentWith old cached calls).Fresh where
  fetches := rfl
  flags _ := rfl
  calls i client retries forceRefresh k here := by
    simp only [sentWith, List.getElem?_map, Option.map_eq_some_iff] at here
    obtain ⟨_, _, same⟩ := here
    cases same

theorem Fresh.runs (fresh : s.Fresh) (c : Nat) :
    s.Runs c id { calls := List.replicate s.calls.length .cacheGet } where
  flag := by rw [fresh.flags]; rfl
  fetches := by rw [fetchesOf, fresh.fetches]; rfl
  owned k here := absurd (here.symm.trans (fresh.flags c)) (by simp)
  waited i retries forceRefresh k here := absurd here (fresh.calls i c retries forceRefresh k)
  distinct i j _ _ same := same
  calls i tokenCall here := by
    obtain ⟨⟨client, call⟩, found, waits⟩ := Option.bind_eq_some_iff.mp here
    have inside := (List.getElem?_eq_some_iff.mp found).1
    have same : tokenCall = .cacheGet := by
      split at waits
      · cases call with
        | cacheGet => exact (Option.some.inj waits).symm
        | cacheRead => exact (Option.some.inj waits).symm
        | authenticating retries forceRefresh k =>
          exact absurd found (fresh.calls i client retries forceRefresh k)
        | _ => contradiction
      · contradiction
    rw [id, List.getElem?_replicate_of_lt inside, same]

theorem client_runs {s₀ : ClientsState} {allowed : ClientsState → ClientsLabel → Prop} (fresh : s₀.Fresh)
    (reach : (clients config).Reaches allowed s₀ s) (c : Nat) :
    ∃ t, tokenClient.Reaches (fun _ _ => True) {} t ∧ ∃ turn, s.Runs c turn t := by
  obtain ⟨t, later, runs⟩ := reach.simulated (fun s t => ∃ turn, s.Runs c turn t)
    (fun a l b t ⟨turn, runs⟩ _ moved => runs.next (.of_next moved)) ⟨id, fresh.runs c⟩
  exact ⟨t, (reaches_replicate _).trans later, runs⟩

theorem isAuthenticating_iff {s₀ : ClientsState} {allowed : ClientsState → ClientsLabel → Prop}
    (fresh : s₀.Fresh) (reach : (clients config).Reaches allowed s₀ s) :
    s.isAuthenticating c = some k ↔
      ∃ fetch, s.fetches[k]? = some fetch ∧ fetch.client = c ∧ fetch.stage.isSettled = false := by
  obtain ⟨t, earlier, turn, runs⟩ := client_runs fresh reach c
  have tied := TokenClient.Tied.init.reaches earlier
  have running (fetch : TokenFetch) (found : s.fetches[k]? = some fetch) (own : fetch.client = c) :
      t.running (s.place c k) = !fetch.stage.isSettled := by
    rw [TokenClient.running, runs.fetches, getElem?_fetchesOf found own]
    rfl
  constructor
  · intro flag
    obtain ⟨fetch, found, own⟩ := runs.owned k flag
    refine ⟨fetch, found, own, ?_⟩
    have there : t.isAuthenticating = some (s.place c k) := by rw [runs.flag, flag]; rfl
    have runs := (tied (s.place c k)).mp there
    rw [running fetch found own] at runs
    simpa using runs
  · rintro ⟨fetch, found, own, unsettled⟩
    have there : t.isAuthenticating = some (s.place c k) := by
      rw [tied, running fetch found own, unsettled]
      rfl
    rw [runs.flag] at there
    obtain ⟨j, flag, same⟩ := Option.map_eq_some_iff.mp there
    rw [flag, place_injective (runs.owned j flag) ⟨fetch, found, own⟩ same]

theorem fetches_single {s₀ : ClientsState} {allowed : ClientsState → ClientsLabel → Prop} {fetch' : TokenFetch}
    (fresh : s₀.Fresh) (reach : (clients config).Reaches allowed s₀ s)
    (first : s.fetches[j]? = some fetch) (second : s.fetches[k]? = some fetch')
    (same : fetch'.client = fetch.client) (unsettled : fetch.stage.isSettled = false)
    (unsettled' : fetch'.stage.isSettled = false) : j = k := by
  have flag := (isAuthenticating_iff fresh reach).mpr ⟨fetch, first, rfl, unsettled⟩
  have flag' := (isAuthenticating_iff fresh reach).mpr ⟨fetch', second, same, unsettled'⟩
  exact Option.some.inj (flag.symm.trans flag')

/-- Seen from one client, a run of all of them is a run of that client alone: its flag is the one fetch
that it has under way, and it never has two. -/
theorem each_client_runs_alone {s₀ : ClientsState} (fresh : s₀.Fresh)
    (reach : (clients config).Reaches (fun _ _ => True) s₀ s) (c : Nat) :
    (∃ t, tokenClient.Reaches (fun _ _ => True) {} t ∧ ∃ turn, s.Runs c turn t) ∧
    (∀ k, s.isAuthenticating c = some k ↔
      ∃ fetch, s.fetches[k]? = some fetch ∧ fetch.client = c ∧ fetch.stage.isSettled = false) ∧
    ∀ (j k : Nat) (fetch fetch' : TokenFetch),
      s.fetches[j]? = some fetch → fetch.client = c → fetch.stage.isSettled = false →
      s.fetches[k]? = some fetch' → fetch'.client = c → fetch'.stage.isSettled = false → j = k := by
  refine ⟨client_runs fresh reach c, fun k => isAuthenticating_iff fresh reach, ?_⟩
  intro j k fetch fetch' first own unsettled second own' unsettled'
  exact fetches_single fresh reach first second (own'.trans own.symm) unsettled unsettled'

theorem each_client_runs_alone_two_processes : ∃ s : ClientsState, s.fetches.length = 2 ∧
    ∃ t, tokenClient.Reaches (fun _ _ => True) {} t ∧ ∃ turn, s.Runs 1 turn t := by
  obtain ⟨s, reach, both⟩ := Machine.Reaches.of_run_any (clients ⟨3, 1000⟩) (fun _ _ => True)
    (sentWith "old" true [(0, 1), (1, 1)]) (refusal 0 ++ refusal 1)
    (fun s => s.fetches.length = 2) (by decide)
  exact ⟨s, of_decide_eq_true both, (each_client_runs_alone (fresh_sentWith ..) reach 1).1⟩

end
end ClientsState
end CourierPlatform
