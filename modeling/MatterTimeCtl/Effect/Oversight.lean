/-
# MatterTimeCtl.Effect.Oversight — monitors over pools.

The processes of a pool each heed a monitor, which is in some state for each of them.  A relation `R` between that
state, whether the process holds the lock, and the world is what the monitor's state is worth (`Oversees`): it lasts
through the process's own calls, and through those of the others.  What the calls that the monitor allows keep, a
pool of such programs keeps (`Pool.overseen`).  Where the state is whether the lock is held, a call that the monitor
does not allow without the lock is made by its one holder, while the others make calls that it does allow
(`Pool.exclusive`).
-/
import MatterTimeCtl.Effect.Monitor
import MatterTimeCtl.Effect.Pool

namespace MatterTimeCtl.Effect

universe u v w x y

variable {W : Type x} {C : Type u} {A : C → Type v} {α : Type w} {σ : Type y}

/-- What the state of a monitor is worth, and what the calls that it allows keep of the world. -/
structure Oversees (E : Environment W C A) (L : Lock C A) (M : Monitor C A σ) (R : σ → Bool → W → Prop)
    (I : W → Prop) : Prop where
  ignores : ∀ {s holds w c m}, M.may s c → R s holds w → E.admits c w m → ¬ L.Grants c (E.answer c w m) →
    ¬ L.Releases c → R (M.see s c (E.answer c w m)) holds (E.next c w m)
  grants : ∀ {s holds w c m}, M.may s c → R s holds w → E.admits c w m → L.Grants c (E.answer c w m) →
    R (M.see s c (E.answer c w m)) true (E.next c w m)
  releases : ∀ {s holds w c m}, M.may s c → R s holds w → E.admits c w m → L.Releases c →
    R (M.see s c (E.answer c w m)) false (E.next c w m)
  others : ∀ {s holds w c m}, R s holds w → E.admits c w m → R s holds (E.next c w m)
  keeps : ∀ {s holds w c m}, M.may s c → R s holds w → I w → E.admits c w m → I (E.next c w m)

/-- The process heeds the monitor from a state that is worth something. -/
def Process.Overseen (M : Monitor C A σ) (R : σ → Bool → W → Prop) (p : Process C A α) (w : W) : Prop :=
  ∃ s, Heeds M p.program (fun _ _ => True) s ∧ R s p.holds w

section Rules

variable {E : Environment W C A} {L : Lock C A} {M : Monitor C A σ} {R : σ → Bool → W → Prop} {I : W → Prop}
  {P : Program C A α → Prop} {G : C → W → Prop} {ps : Pool C A α} {w : W} {i : Nat}

/-- A call of one process, told by what becomes of the process. -/
theorem overseen_update (oversees : Oversees E L M R I) {c : C} {m : E.Move c} (admitted : E.admits c w m)
    (h : ∀ i p, ps i = some p → p.Overseen M R w) {p : Process C A α} (hp : p.Overseen M R (E.next c w m)) (j : Nat)
    (q : Process C A α) (hj : Function.update ps i (some p) j = some q) : q.Overseen M R (E.next c w m) := by
  rcases update_cases hj with ⟨-, rfl⟩ | ⟨-, hj⟩
  · exact hp
  · obtain ⟨s, heeds, hR⟩ := h j q hj
    exact ⟨s, heeds, oversees.others hR admitted⟩

/-- **One step** of a pool. -/
theorem Pool.overseen_step (oversees : Oversees E L M R I)
    (starts : ∀ p w, P p → I w → Process.Overseen M R ⟨p, false⟩ w) {s s' : Pool C A α × W} (hI : I s.2)
    (h : ∀ i p, s.1 i = some p → p.Overseen M R s.2) (step : Pool.Step E L P G s s') :
    I s'.2 ∧ ∀ i p, s'.1 i = some p → p.Overseen M R s'.2 := by
  cases step with
  | start idle hp =>
      refine ⟨hI, fun j q hj => ?_⟩
      rcases update_cases hj with ⟨-, rfl⟩ | ⟨-, hj⟩
      · exact starts _ _ hp hI
      · exact h j q hj
  | stop i => exact ⟨hI, fun j q hj => h j q (of_update_none hj)⟩
  | call at_ admitted refused keeps =>
      obtain ⟨s, heeds, hR⟩ := h _ _ at_
      obtain ⟨may, rest⟩ := heeds_call.mp heeds
      exact ⟨oversees.keeps may hR hI admitted, overseen_update oversees admitted h
        ⟨_, rest _, oversees.ignores may hR admitted refused keeps⟩⟩
  | acquire at_ admitted granted _ _ =>
      obtain ⟨s, heeds, hR⟩ := h _ _ at_
      obtain ⟨may, rest⟩ := heeds_call.mp heeds
      exact ⟨oversees.keeps may hR hI admitted, overseen_update oversees admitted h
        ⟨_, rest _, oversees.grants may hR admitted granted⟩⟩
  | release at_ admitted releases =>
      obtain ⟨s, heeds, hR⟩ := h _ _ at_
      obtain ⟨may, rest⟩ := heeds_call.mp heeds
      exact ⟨oversees.keeps may hR hI admitted, overseen_update oversees admitted h
        ⟨_, rest _, oversees.releases may hR admitted releases⟩⟩

/-- **The rule**: what the allowed calls keep, a pool keeps. -/
theorem Pool.overseen (oversees : Oversees E L M R I)
    (starts : ∀ p w, P p → I w → Process.Overseen M R ⟨p, false⟩ w) {w₀ : W} (hw : I w₀) {s : Pool C A α × W}
    (steps : Pool.Steps E L P G (Pool.empty, w₀) s) : I s.2 ∧ ∀ i p, s.1 i = some p → p.Overseen M R s.2 := by
  induction steps with
  | refl => exact ⟨hw, fun _ _ h => nomatch h⟩
  | tail _ step ih => exact Pool.overseen_step oversees starts ih.1 ih.2 step

/-! ### The lock -/

/-- One process at most holds the lock, in every pool. -/
theorem Pool.single {w₀ : W} {s : Pool C A α × W} (steps : Pool.Steps E L P G (Pool.empty, w₀) s) :
    ∀ i j p q, s.1 i = some p → s.1 j = some q → p.holds = true → q.holds = true → i = j := by
  induction steps with
  | refl => exact fun _ _ _ _ h => nomatch h
  | tail _ step ih =>
      cases step with
      | start idle hp => exact single_update ih nofun
      | stop i => exact fun j k q r hj hk => ih j k q r (of_update_none hj) (of_update_none hk)
      | call at_ _ _ _ =>
          refine single_update ih fun hp j q hne hj => ?_
          by_contra hq
          exact hne (ih j _ q _ hj at_ (by simpa using hq) hp)
      | acquire at_ _ _ free _ => exact single_update ih fun _ j q _ hj => free j q hj
      | release at_ _ _ => exact single_update ih nofun

/-- The monitor's state is whether the lock is held. -/
structure Monitor.Follows (M : Monitor C A Bool) (L : Lock C A) : Prop where
  grants : ∀ {holds c a}, M.may holds c → L.Grants c a → M.see holds c a = true
  releases : ∀ {holds c a}, M.may holds c → L.Releases c → M.see holds c a = false
  ignores : ∀ {holds c a}, M.may holds c → ¬ L.Grants c a → ¬ L.Releases c → M.see holds c a = holds

theorem Monitor.Follows.oversees {M : Monitor C A Bool} (follows : M.Follows L) (E : Environment W C A) :
    Oversees E L M (fun s holds _ => s = holds) fun _ => True where
  ignores may hR _ refused keeps := (follows.ignores may refused keeps).trans hR
  grants may _ _ granted := follows.grants may granted
  releases may _ _ releases := follows.releases may releases
  others hR _ := hR
  keeps _ _ _ _ := trivial

/-- **Exclusion**: what needs the lock is done by its holder, while the others do what does not need it. -/
theorem Pool.exclusive {M : Monitor C A Bool} (follows : M.Follows L)
    (starts : ∀ p, P p → Heeds M p (fun _ _ => True) false) {w₀ : W}
    (steps : Pool.Steps E L P G (Pool.empty, w₀) (ps, w)) {c : C} {next : A c → Program C A α} {holds : Bool}
    (at_ : ps i = some ⟨.call c next, holds⟩) (needs : ¬ M.may false c) :
    holds = true ∧ ∀ j p, j ≠ i → ps j = some p →
      p.holds = false ∧ ∀ c' next', p.program = .call c' next' → M.may false c' := by
  have overseen := (Pool.overseen (follows.oversees E) (fun p _ hp _ => ⟨false, starts p hp, rfl⟩) trivial steps).2
  have heeds : ∀ {j p}, ps j = some p → Heeds M p.program (fun _ _ => True) p.holds := fun hj => by
    obtain ⟨s, heeds, rfl⟩ := overseen _ _ hj
    exact heeds
  have may := (heeds_call.mp (heeds at_)).1
  obtain rfl : holds = true := by
    by_contra hholds
    rw [Bool.not_eq_true] at hholds
    exact needs (hholds ▸ may)
  refine ⟨rfl, fun j p hne hj => ?_⟩
  have free : p.holds = false := by
    by_contra hp
    exact hne (Pool.single steps j i p _ hj at_ (by simpa using hp) rfl)
  refine ⟨free, fun c' next' hp => ?_⟩
  have waiting := heeds hj
  rw [hp, free] at waiting
  exact (heeds_call.mp waiting).1

end Rules

end MatterTimeCtl.Effect
