import CourierPlatform.Library.Machine
import Mathlib.Logic.Function.Basic
import Mathlib.Order.Lattice

/-! Leases on one lock. The store grants the lock for a while and does not know to whom;
each party remembers when its own lease ends. A release opens the lock whoever holds
it, so exclusion rests on when the parties release. -/
namespace CourierPlatform.Library

universe u v w x

/-- `held s t` says that a request at `t` would find the lock taken. -/
structure LeaseStore (σ : Type u) (τ : Type v) (T : Type w) [LinearOrder T] where
  held : σ → T → Prop
  expiry : T → τ → T
  acquire : σ → T → τ → σ × Bool
  release : σ → T → σ
  granted_of_free : ∀ s now ttl, ¬ held s now → (acquire s now ttl).2 = true
  free_of_granted : ∀ s now ttl, (acquire s now ttl).2 = true → now < expiry now ttl → ¬ held s now
  held_of_granted : ∀ s now ttl t, (acquire s now ttl).2 = true → now ≤ t → t < expiry now ttl →
    held (acquire s now ttl).1 t
  /-- A request that is refused, or granted for no time, takes the lock from nobody. -/
  held_of_held : ∀ s now ttl t, ((acquire s now ttl).2 = true → expiry now ttl ≤ now) → now ≤ t →
    held s t → held (acquire s now ttl).1 t
  free_of_released : ∀ s now t, now ≤ t → ¬ held (release s now) t

/-- `leases p` is the end of a lease that was granted to `p` and that `p` has not released. -/
structure Leased (P : Type x) (σ : Type u) (T : Type w) where
  store : σ
  now : T
  leases : P → Option T

section
variable {P : Type x} {σ : Type u} {τ : Type v} {T : Type w} [LinearOrder T]
  {store : LeaseStore σ τ T} {s t : Leased P σ T} {p q : P} {ttl : τ}

namespace Leased

def standing (s : Leased P σ T) (p : P) : Bool := (s.leases p).any fun expiry => s.now < expiry

theorem standing_iff : s.standing p = true ↔ ∃ expiry, s.leases p = some expiry ∧ s.now < expiry := by
  unfold standing
  cases s.leases p <;> simp

def Exclusive (s : Leased P σ T) : Prop :=
  ∀ p q, s.standing p = true → s.standing q = true → p = q

def start (store : σ) (now : T) : Leased P σ T := ⟨store, now, fun _ => none⟩

def wait (s : Leased P σ T) (now : T) : Leased P σ T := { s with now := now }

variable [DecidableEq P]

def acquire (store : LeaseStore σ τ T) (s : Leased P σ T) (p : P) (ttl : τ) : Leased P σ T :=
  let answer := store.acquire s.store s.now ttl
  { s with
    store := answer.1
    leases := if answer.2 then Function.update s.leases p (some (store.expiry s.now ttl)) else s.leases }

/-- The release of `p` is lost: it gives its lease up, and the store does not learn of it. -/
def abandon (s : Leased P σ T) (p : P) : Leased P σ T :=
  { s with leases := Function.update s.leases p none }

def release (store : LeaseStore σ τ T) (s : Leased P σ T) (p : P) : Leased P σ T :=
  { s.abandon p with store := store.release s.store s.now }

structure Safe (store : LeaseStore σ τ T) (s : Leased P σ T) : Prop where
  held : ∀ p expiry t, s.leases p = some expiry → s.now ≤ t → t < expiry → store.held s.store t
  exclusive : s.Exclusive

namespace Safe

omit [DecidableEq P] in
theorem start (state : σ) (now : T) : (Leased.start state now : Leased P σ T).Safe store where
  held := by
    intro p expiry t leased
    contradiction
  exclusive := by
    intro p q standing
    contradiction

omit [DecidableEq P] in
theorem mono (h : s.Safe store) (later : s.now ≤ t.now)
    (fewer : ∀ p expiry, t.leases p = some expiry → s.leases p = some expiry)
    (kept : ∀ instant, s.now ≤ instant → store.held s.store instant → store.held t.store instant) :
    t.Safe store where
  held := by
    intro p expiry instant leased since before
    have started := le_trans later since
    exact kept instant started (h.held p expiry instant (fewer p expiry leased) started before)
  exclusive := by
    have stood {p : P} (standing : t.standing p = true) : s.standing p = true := by
      obtain ⟨expiry, leased, before⟩ := standing_iff.mp standing
      exact standing_iff.mpr ⟨expiry, fewer p expiry leased, lt_of_le_of_lt later before⟩
    intro p q left right
    exact h.exclusive p q (stood left) (stood right)

omit [DecidableEq P] in
theorem wait (h : s.Safe store) {now : T} (later : s.now ≤ now) : (s.wait now).Safe store :=
  h.mono later (fun _ _ leased => leased) fun _ _ held => held

omit [DecidableEq P] in
theorem not_standing (h : s.Safe store) (free : ¬ store.held s.store s.now) (p : P) :
    s.standing p = false := by
  by_contra standing
  obtain ⟨expiry, leased, before⟩ := standing_iff.mp (by simpa using standing)
  exact free (h.held p expiry s.now leased (le_refl _) before)

theorem abandon (h : s.Safe store) (p : P) : (s.abandon p).Safe store := by
  have later : s.now ≤ (s.abandon p).now := le_refl _
  apply h.mono later
  · intro q expiry leased
    by_cases same : q = p
    · subst same
      simp [Leased.abandon] at leased
    · simpa [Leased.abandon, Function.update_of_ne same] using leased
  · intro _ _ held
    exact held

theorem acquire_refused (h : s.Safe store) (p : P)
    (refused : (store.acquire s.store s.now ttl).2 = false) : (s.acquire store p ttl).Safe store := by
  have later : s.now ≤ (s.acquire store p ttl).now := le_refl _
  apply h.mono later
  · intro q expiry leased
    simpa [Leased.acquire, refused] using leased
  · intro instant since held
    exact store.held_of_held _ _ _ _ (by simp [refused]) since held

theorem acquire_lasting (h : s.Safe store) (p : P)
    (granted : (store.acquire s.store s.now ttl).2 = true)
    (lasts : s.now < store.expiry s.now ttl) : (s.acquire store p ttl).Safe store := by
  have none_stands := h.not_standing (store.free_of_granted _ _ _ granted lasts)
  have other {q : P} {expiry : T} (different : q ≠ p)
      (leased : (s.acquire store p ttl).leases q = some expiry) : expiry ≤ s.now := by
    simp only [Leased.acquire, granted, if_true, Function.update_of_ne different] at leased
    by_contra after
    have stands := standing_iff.mpr ⟨expiry, leased, lt_of_not_ge after⟩
    rw [none_stands q] at stands
    contradiction
  have mine {q : P} (stands : (s.acquire store p ttl).standing q = true) : q = p := by
    obtain ⟨expiry, leased, before⟩ := standing_iff.mp stands
    by_contra different
    exact not_lt_of_ge (other different leased) before
  constructor
  · intro q expiry instant leased since before
    by_cases same : q = p
    · subst same
      simp only [Leased.acquire, granted, if_true, Function.update_self, Option.some.injEq] at leased
      exact store.held_of_granted _ _ _ _ granted since (leased ▸ before)
    · exact absurd (lt_of_le_of_lt since before) (not_lt_of_ge (other same leased))
  · intro q r left right
    rw [mine left, mine right]

theorem acquire_ended (h : s.Safe store) (p : P)
    (granted : (store.acquire s.store s.now ttl).2 = true)
    (ended : store.expiry s.now ttl ≤ s.now) : (s.acquire store p ttl).Safe store := by
  have earlier {q : P} {expiry instant : T}
      (leased : (s.acquire store p ttl).leases q = some expiry)
      (since : s.now ≤ instant) (before : instant < expiry) : s.leases q = some expiry := by
    by_cases same : q = p
    · subst same
      simp only [Leased.acquire, granted, if_true, Function.update_self, Option.some.injEq] at leased
      exact absurd (lt_of_le_of_lt since before) (not_lt_of_ge (leased ▸ ended))
    · simpa [Leased.acquire, granted, Function.update_of_ne same] using leased
  have stood {q : P} (stands : (s.acquire store p ttl).standing q = true) : s.standing q = true := by
    obtain ⟨expiry, leased, before⟩ := standing_iff.mp stands
    exact standing_iff.mpr ⟨expiry, earlier leased (le_refl _) before, before⟩
  constructor
  · intro q expiry instant leased since before
    exact store.held_of_held _ _ _ _ (fun _ => ended) since
      (h.held q expiry instant (earlier leased since before) since before)
  · intro q r left right
    exact h.exclusive q r (stood left) (stood right)

theorem acquire (h : s.Safe store) (p : P) (ttl : τ) : (s.acquire store p ttl).Safe store := by
  cases granted : (store.acquire s.store s.now ttl).2 with
  | false => exact h.acquire_refused p granted
  | true =>
    by_cases lasts : s.now < store.expiry s.now ttl
    · exact h.acquire_lasting p granted lasts
    · exact h.acquire_ended p granted (le_of_not_gt lasts)

theorem of_release (p : P) (own : ∀ q, q ≠ p → s.standing q = false) :
    (s.release store p).Safe store := by
  have none_stands (q : P) (expiry : T)
      (leased : (s.release store p).leases q = some expiry) : expiry ≤ s.now := by
    by_cases same : q = p
    · subst same
      simp [Leased.release, Leased.abandon] at leased
    · simp only [Leased.release, Leased.abandon, Function.update_of_ne same] at leased
      by_contra after
      have stands := standing_iff.mpr ⟨expiry, leased, lt_of_not_ge after⟩
      rw [own q same] at stands
      contradiction
  constructor
  · intro q expiry instant leased since before
    exact absurd (lt_of_le_of_lt since before) (not_lt_of_ge (none_stands q expiry leased))
  · intro q r left
    obtain ⟨expiry, leased, before⟩ := standing_iff.mp left
    exact absurd before (not_lt_of_ge (none_stands q expiry leased))

end Safe

/-- A release under somebody else's lease lets the next party in beside it. -/
theorem standing_of_stale_release {r : P} (stands : s.standing q = true) (stale : q ≠ p)
    (different : q ≠ r) (lasts : s.now < store.expiry s.now ttl) :
    ((s.release store p).acquire store r ttl).standing q = true ∧
      ((s.release store p).acquire store r ttl).standing r = true := by
  have free := store.free_of_released s.store s.now s.now (le_refl _)
  have granted := store.granted_of_free _ s.now ttl free
  obtain ⟨expiry, leased, before⟩ := standing_iff.mp stands
  constructor
  · apply standing_iff.mpr
    refine ⟨expiry, ?_, before⟩
    simp [Leased.acquire, Leased.release, Leased.abandon, granted, Function.update_of_ne different,
      Function.update_of_ne stale, leased]
  · apply standing_iff.mpr
    refine ⟨store.expiry s.now ttl, ?_, lasts⟩
    simp [Leased.acquire, Leased.release, Leased.abandon, granted]

omit [DecidableEq P] in
theorem Safe.own_of_standing (h : s.Safe store) (standing : s.standing p = true) :
    ∀ q, q ≠ p → s.standing q = false := by
  intro q different
  by_contra other
  exact different (h.exclusive q p (by simpa using other) standing)

end Leased

variable [DecidableEq P]

inductive LeaseLabel (P : Type x) (τ : Type v) (T : Type w) where
  | acquire (p : P) (ttl : τ)
  | release (p : P)
  | wait (now : T)

def LeaseStore.machine (store : LeaseStore σ τ T) :
    Machine (Leased P σ T) (LeaseLabel P τ T) where
  next s
    | .acquire p ttl => if (s.leases p).isNone then some (s.acquire store p ttl) else none
    | .release p => if (s.leases p).isSome then some (s.release store p) else none
    | .wait now => if s.now ≤ now then some (s.wait now) else none

/-- A party that releases after its own lease has expired does so only while nobody else's lease
stands. -/
def Leased.releasesOwn (s : Leased P σ T) : LeaseLabel P τ T → Prop
  | .release p => s.standing p = true ∨ ∀ q, q ≠ p → s.standing q = false
  | _ => True

instance {n : Nat} (s : Leased (Fin n) σ T) (l : LeaseLabel (Fin n) τ T) :
    Decidable (s.releasesOwn l) :=
  match l with
  | .release p => inferInstanceAs (Decidable (_ ∨ ∀ q, q ≠ p → s.standing q = false))
  | .acquire .. => inferInstanceAs (Decidable True)
  | .wait _ => inferInstanceAs (Decidable True)

theorem Leased.Safe.of_reaches {state : σ} {now : T}
    (reach : store.machine.Reaches Leased.releasesOwn (Leased.start state now) s) :
    s.Safe store := by
  apply reach.invariant (Leased.Safe store) (.start state now)
  intro a l b safe own moved
  cases l with
  | acquire p ttl =>
    simp only [LeaseStore.machine, Option.ite_none_right_eq_some, Option.some.injEq] at moved
    exact moved.2 ▸ safe.acquire p ttl
  | release p =>
    simp only [LeaseStore.machine, Option.ite_none_right_eq_some, Option.some.injEq] at moved
    exact moved.2 ▸ .of_release p (own.elim safe.own_of_standing id)
  | wait later =>
    simp only [LeaseStore.machine, Option.ite_none_right_eq_some, Option.some.injEq] at moved
    exact moved.2 ▸ safe.wait moved.1

end
end CourierPlatform.Library
