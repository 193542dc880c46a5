import Mathlib.Logic.Function.Basic

/-! Stores of values with a lifetime. What a store is to answer is read off a ledger of the latest
write under each key; a store that follows its ledger call by call follows it over a whole run. -/
namespace CourierPlatform.Library

universe u v w x y

inductive StoreCall (K : Type u) (V : Type v) (τ : Type w) where
  | get (key : K)
  | set (key : K) (value : V) (ttl : τ)
  | del (key : K)

theorem clock_cons {T : Type x} {C : Type y} [LE T] {now : T} {call : C} {rest : List (T × C)} :
    (((now, call) :: rest).map Prod.fst).Pairwise (· ≤ ·) ↔
      (∀ later ∈ rest, now ≤ later.1) ∧ (rest.map Prod.fst).Pairwise (· ≤ ·) := by
  rw [List.map_cons, List.pairwise_cons, List.forall_mem_map]

structure Kept (V : Type v) (T : Type x) (τ : Type w) where
  value : V
  since : T
  ttl : τ

/-- What was set last under each key and has not been deleted since. -/
abbrev Ledger (K : Type u) (V : Type v) (T : Type x) (τ : Type w) := K → Option (Kept V T τ)

namespace Ledger

variable {K : Type u} {V : Type v} {T : Type x} {τ : Type w}

def empty : Ledger K V T τ := fun _ => none

variable [DecidableEq K]

def record (ledger : Ledger K V T τ) (now : T) : StoreCall K V τ → Ledger K V T τ
  | .get _ => ledger
  | .set key value ttl => Function.update ledger key (some ⟨value, now, ttl⟩)
  | .del key => Function.update ledger key none

theorem record_set (ledger : Ledger K V T τ) (now : T) (key : K) (value : V) (ttl : τ) (other : K) :
    ledger.record now (.set key value ttl) other =
      if other = key then some ⟨value, now, ttl⟩ else ledger other :=
  Function.update_apply ..

theorem record_del (ledger : Ledger K V T τ) (now : T) (key other : K) :
    ledger.record now (.del key) other = if other = key then none else ledger other :=
  Function.update_apply ..

theorem since_of_record {ledger : Ledger K V T τ} {now : T} {call : StoreCall K V τ} {key : K}
    {kept : Kept V T τ} (h : kept ∈ ledger.record now call key) :
    kept ∈ ledger key ∨ kept.since = now := by
  cases call with
  | get _ => exact .inl h
  | set written value ttl =>
    rw [record_set] at h
    split at h
    · cases h
      exact .inr rfl
    · exact .inl h
  | del written =>
    rw [record_del] at h
    split at h
    · cases h
    · exact .inl h

def EveryGet (holds : T → Option (Kept V T τ) → Prop) :
    Ledger K V T τ → List (T × StoreCall K V τ) → Prop
  | _, [] => True
  | ledger, (now, call) :: rest =>
    (∀ key, call = .get key → holds now (ledger key)) ∧ EveryGet holds (ledger.record now call) rest

def answer (lives : T → Kept V T τ → Bool) (now : T) (entry : Option (Kept V T τ)) : Option V :=
  entry.bind fun kept => if lives now kept then some kept.value else none

def answers (lives : T → Kept V T τ → Bool) :
    Ledger K V T τ → List (T × StoreCall K V τ) → List (Option V)
  | _, [] => []
  | ledger, (now, .get key) :: rest => answer lives now (ledger key) :: answers lives ledger rest
  | ledger, (now, call) :: rest => answers lives (ledger.record now call) rest

section
variable {lives lives' : T → Kept V T τ → Bool} {holds holds' : T → Option (Kept V T τ) → Prop}
  {ledger : Ledger K V T τ} {calls : List (T × StoreCall K V τ)}

omit [DecidableEq K] in
theorem answer_eq_iff {now : T} {entry : Option (Kept V T τ)} :
    answer lives now entry = answer lives' now entry ↔
      ∀ kept ∈ entry, lives now kept = lives' now kept := by
  cases entry with
  | none => simp [answer]
  | some kept =>
    cases here : lives now kept <;> cases there : lives' now kept <;> simp [answer, here, there]

theorem answers_eq_iff (ledger : Ledger K V T τ) (calls : List (T × StoreCall K V τ)) :
    ledger.answers lives calls = ledger.answers lives' calls ↔
      ledger.EveryGet (fun now entry => ∀ kept ∈ entry, lives now kept = lives' now kept) calls := by
  induction calls generalizing ledger with
  | nil => simp [answers, EveryGet]
  | cons head rest ih =>
    obtain ⟨now, call⟩ := head
    cases call with
    | get key =>
      simp only [answers, EveryGet, List.cons.injEq, answer_eq_iff, ih]
      simp [record]
    | set key value ttl => simpa [answers, EveryGet] using ih _
    | del key => simpa [answers, EveryGet] using ih _

theorem everyGet_of_forall (every : ∀ now entry, holds now entry) :
    ledger.EveryGet holds calls := by
  induction calls generalizing ledger with
  | nil => trivial
  | cons head rest ih => exact ⟨fun key _ => every _ _, ih⟩

theorem EveryGet.and (first : ledger.EveryGet holds calls) (second : ledger.EveryGet holds' calls) :
    ledger.EveryGet (fun now entry => holds now entry ∧ holds' now entry) calls := by
  induction calls generalizing ledger with
  | nil => trivial
  | cons head rest ih =>
    exact ⟨fun key read => ⟨first.1 key read, second.1 key read⟩, ih first.2 second.2⟩

theorem EveryGet.iff {given : T → Option (Kept V T τ) → Prop} (known : ledger.EveryGet given calls)
    (same : ∀ now entry, given now entry → (holds now entry ↔ holds' now entry)) :
    ledger.EveryGet holds calls ↔ ledger.EveryGet holds' calls := by
  induction calls generalizing ledger with
  | nil => rfl
  | cons head rest ih =>
    unfold EveryGet
    rw [ih known.2]
    apply and_congr_left'
    apply forall_congr'
    intro key
    apply forall_congr'
    intro read
    exact same _ _ (known.1 key read)

variable [LE T]

theorem everyGet_since (clock : (calls.map Prod.fst).Pairwise (· ≤ ·))
    (earlier : ∀ key, ∀ kept ∈ ledger key, ∀ call ∈ calls, kept.since ≤ call.1) :
    ledger.EveryGet (fun now entry => ∀ kept ∈ entry, kept.since ≤ now) calls := by
  induction calls generalizing ledger with
  | nil => trivial
  | cons head rest ih =>
    obtain ⟨now, call⟩ := head
    obtain ⟨later, ticks⟩ := clock_cons.mp clock
    constructor
    · intro key read kept found
      exact earlier key kept found _ List.mem_cons_self
    · apply ih ticks
      intro key kept found other member
      rcases since_of_record found with old | fresh
      · exact earlier key kept old other (List.mem_cons_of_mem _ member)
      · rw [fresh]
        exact later other member

end
end Ledger

/-- A store whose lookups follow its writes. `look` says what a `get` would answer; where `settled`
fails, it may answer either way. -/
structure LifetimeStore (σ : Type y) (K : Type u) (V : Type v) (T : Type x) (τ : Type w)
    [LE T] where
  get : σ → T → K → σ × Option V
  set : σ → T → K → V → τ → σ
  del : σ → T → K → σ
  look : σ → T → K → Option V
  lives : T → Kept V T τ → Bool
  settled : T → Kept V T τ → Prop
  answer_get : ∀ s now key, (get s now key).2 = look s now key
  look_get : ∀ s now key t other, now ≤ t → look (get s now key).1 t other = look s t other
  look_set : ∀ s now key value ttl t, now ≤ t → settled t ⟨value, now, ttl⟩ →
    look (set s now key value ttl) t key = Ledger.answer lives t (some ⟨value, now, ttl⟩)
  look_set_of_ne : ∀ s now key value ttl t other, other ≠ key → now ≤ t →
    look (set s now key value ttl) t other = look s t other
  look_del : ∀ s now key t, now ≤ t → look (del s now key) t key = none
  look_del_of_ne : ∀ s now key t other, other ≠ key → now ≤ t →
    look (del s now key) t other = look s t other

namespace LifetimeStore

variable {σ : Type y} {K : Type u} {V : Type v} {T : Type x} {τ : Type w} [LE T]
  (store : LifetimeStore σ K V T τ)

def answers : σ → List (T × StoreCall K V τ) → List (Option V)
  | _, [] => []
  | s, (now, .get key) :: rest => (store.get s now key).2 :: answers (store.get s now key).1 rest
  | s, (now, .set key value ttl) :: rest => answers (store.set s now key value ttl) rest
  | s, (now, .del key) :: rest => answers (store.del s now key) rest

/-- From `now` on, the store answers what the ledger says, at every settled entry. -/
def Follows (s : σ) (now : T) (ledger : Ledger K V T τ) : Prop :=
  ∀ t, now ≤ t → ∀ key, (∀ kept ∈ ledger key, store.settled t kept) →
    store.look s t key = Ledger.answer store.lives t (ledger key)

variable {store} [DecidableEq K] {s : σ} {now t : T} {ledger : Ledger K V T τ}

omit [DecidableEq K] in
theorem Follows.later [Std.IsPreorder T] (h : store.Follows s now ledger) (since : now ≤ t) :
    store.Follows s t ledger :=
  fun instant later => h instant (Std.le_trans since later)

omit [DecidableEq K] in
theorem Follows.get (h : store.Follows s now ledger) (key : K) :
    store.Follows (store.get s now key).1 now ledger := by
  intro t since other settled
  rw [store.look_get s now key t other since]
  exact h t since other settled

theorem Follows.set (h : store.Follows s now ledger) (key : K) (value : V) (ttl : τ) :
    store.Follows (store.set s now key value ttl) now (ledger.record now (.set key value ttl)) := by
  intro t since other settled
  rw [Ledger.record_set] at settled ⊢
  by_cases same : other = key
  · subst same
    rw [if_pos rfl] at settled ⊢
    exact store.look_set s now other value ttl t since (settled _ rfl)
  · rw [if_neg same] at settled ⊢
    rw [store.look_set_of_ne s now key value ttl t other same since]
    exact h t since other settled

theorem Follows.del (h : store.Follows s now ledger) (key : K) :
    store.Follows (store.del s now key) now (ledger.record now (.del key)) := by
  intro t since other settled
  rw [Ledger.record_del] at settled ⊢
  by_cases same : other = key
  · subst same
    rw [if_pos rfl]
    exact store.look_del s now other t since
  · rw [if_neg same] at settled ⊢
    rw [store.look_del_of_ne s now key t other same since]
    exact h t since other settled

/-- A store that follows the ledger answers a whole run as the ledger does, as long as each entry
that is read is settled. -/
theorem answers_of_follows [Std.IsPreorder T] {calls : List (T × StoreCall K V τ)}
    (h : store.Follows s now ledger)
    (since : ∀ call ∈ calls, now ≤ call.1) (clock : (calls.map Prod.fst).Pairwise (· ≤ ·))
    (settled : ledger.EveryGet (fun t entry => ∀ kept ∈ entry, store.settled t kept) calls) :
    store.answers s calls = ledger.answers store.lives calls := by
  induction calls generalizing s now ledger with
  | nil => rfl
  | cons head rest ih =>
    obtain ⟨t, call⟩ := head
    obtain ⟨later, ticks⟩ := clock_cons.mp clock
    have here : store.Follows s t ledger := h.later (since _ List.mem_cons_self)
    cases call with
    | get key =>
      have read : (store.get s t key).2 = Ledger.answer store.lives t (ledger key) := by
        rw [store.answer_get]
        exact here t (Std.le_refl t) key (settled.1 key rfl)
      unfold answers Ledger.answers
      rw [read, ih (here.get key) later ticks settled.2]
    | set key value ttl => exact ih (here.set key value ttl) later ticks settled.2
    | del key => exact ih (here.del key) later ticks settled.2

omit [DecidableEq K] in
theorem Follows.empty (nothing : ∀ t key, store.look s t key = none) :
    store.Follows s now Ledger.empty := by
  intro t _ key _
  exact nothing t key

theorem answers_of_empty [Std.IsPreorder T] {calls : List (T × StoreCall K V τ)}
    (nothing : ∀ t key, store.look s t key = none) (clock : (calls.map Prod.fst).Pairwise (· ≤ ·))
    (settled : Ledger.empty.EveryGet (fun t entry => ∀ kept ∈ entry, store.settled t kept) calls) :
    store.answers s calls = Ledger.empty.answers store.lives calls := by
  cases calls with
  | nil => rfl
  | cons head rest =>
    apply answers_of_follows (Follows.empty nothing : store.Follows s head.1 _) _ clock settled
    rintro call (_ | ⟨_, member⟩)
    · exact Std.le_refl _
    · exact (clock_cons.mp clock).1 call member

end LifetimeStore
end CourierPlatform.Library
