import RmtLibrary.GuardedExecution
import Mathlib.Order.Filter.AtTopBot.Basic
import Mathlib.Order.Filter.Finite

/-! # Runs without an end

What happens again and again is `∃ᶠ t in atTop`, what holds from some time on `∀ᶠ t in atTop`.
Progress is shown with a rank that no step raises and that the fair steps lower. -/
namespace FairRuns

open Filter
open GuardedExecution

variable {σ ε : Type*}

/-- Every event meets the guard, and no step faults. -/
structure Run (step : σ → ε → Option σ) (guard : σ → ε → Prop) (s₀ : σ) (state : ℕ → σ)
    (event : ℕ → ε) : Prop where
  start : state 0 = s₀
  guard : ∀ t, guard (state t) (event t)
  next : ∀ t, step (state t) (event t) = some (state (t + 1))

theorem Run.execution {step : σ → ε → Option σ} {guard : σ → ε → Prop} {s₀ : σ} {state : ℕ → σ}
    {event : ℕ → ε} (h : Run step guard s₀ state event) (t : ℕ) :
    Execution step guard s₀ (state t) := by
  induction t with
  | zero =>
    rw [h.start]
    exact .refl
  | succ t ih => exact .tail ih (h.guard t) (h.next t)

theorem eventually_of_frequently {P : ℕ → Prop} (hkeep : ∀ᶠ t in atTop, P t → P (t + 1))
    (h : ∃ᶠ t in atTop, P t) : ∀ᶠ t in atTop, P t := by
  obtain ⟨a, ha⟩ := eventually_atTop.mp hkeep
  obtain ⟨b, hab, hb⟩ := frequently_atTop.mp h a
  refine eventually_atTop.mpr ⟨b, fun c hc => ?_⟩
  induction c, hc using Nat.le_induction with
  | base => exact hb
  | succ c hbc ih => exact ha c (hab.trans hbc) ih

/-- A step lemma whose steps reach `Q` or keep `P` and do not raise the rank. -/
theorem holds_until {P Q : ℕ → Prop} {rank : ℕ → ℕ} {t u : ℕ} (hP : P t) (htu : t ≤ u)
    (hstep : ∀ v, t ≤ v → P v → Q (v + 1) ∨ P (v + 1) ∧ rank (v + 1) ≤ rank v) :
    (∃ v, t ≤ v ∧ Q v) ∨ P u ∧ rank u ≤ rank t := by
  induction u, htu using Nat.le_induction with
  | base => exact Or.inr ⟨hP, le_rfl⟩
  | succ u htu ih =>
    rcases ih with hQ | ⟨hu, hle⟩
    · exact Or.inl hQ
    · rcases hstep u htu hu with hQ | ⟨hu', hle'⟩
      · exact Or.inl ⟨u + 1, Nat.le_succ_of_le htu, hQ⟩
      · exact Or.inr ⟨hu', hle'.trans hle⟩

theorem reached_or_kept {P Q : ℕ → Prop} {t u : ℕ} (hP : P t) (htu : t ≤ u)
    (hstep : ∀ v, t ≤ v → P v → Q (v + 1) ∨ P (v + 1)) :
    (∃ v, t ≤ v ∧ (∀ w, t ≤ w → w ≤ v → P w) ∧ Q (v + 1)) ∨ ∀ w, t ≤ w → w ≤ u → P w := by
  induction u, htu using Nat.le_induction with
  | base =>
    refine Or.inr fun w htw hwt => ?_
    obtain rfl := le_antisymm htw hwt
    exact hP
  | succ u htu ih =>
    rcases ih with hreached | hkept
    · exact Or.inl hreached
    · rcases hstep u htu (hkept u htu le_rfl) with hQ | hnext
      · exact Or.inl ⟨u, htu, hkept, hQ⟩
      · refine Or.inr fun w htw hw => ?_
        rcases Nat.le_or_eq_of_le_succ hw with hw | rfl
        · exact hkept w htw hw
        · exact hnext

/-- While `P` holds no step raises the rank and every fair step lowers it, so `Q` comes. -/
theorem exists_of_rank {P Q fair : ℕ → Prop} {rank : ℕ → ℕ} {t : ℕ} (hP : P t)
    (hfair : ∃ᶠ u in atTop, fair u)
    (hstep : ∀ u, t ≤ u → P u → Q (u + 1) ∨
      P (u + 1) ∧ rank (u + 1) ≤ rank u ∧ (fair u → rank (u + 1) < rank u)) :
    ∃ u, t ≤ u ∧ Q u := by
  induction hrank : rank t using Nat.strong_induction_on generalizing t with
  | _ k ih =>
    obtain ⟨u, htu, hu⟩ := frequently_atTop.mp hfair t
    have huntil := @holds_until P Q rank t u hP htu fun v htv hv =>
      (hstep v htv hv).imp_right fun h => ⟨h.1, h.2.1⟩
    rcases huntil with hQ | ⟨hPu, hle⟩
    · exact hQ
    rcases hstep u htu hPu with hQ | ⟨hPu', -, hlt⟩
    · exact ⟨u + 1, Nat.le_succ_of_le htu, hQ⟩
    have hless : rank (u + 1) < k := lt_of_lt_of_le (hlt hu) (hle.trans hrank.le)
    obtain ⟨v, huv, hQ⟩ := ih _ hless hPu'
      (fun w hw => hstep w ((Nat.le_succ_of_le htu).trans hw)) rfl
    exact ⟨v, (Nat.le_succ_of_le htu).trans huv, hQ⟩

variable {step : σ → ε → Option σ} {guard : σ → ε → Prop} {I : σ → Prop}

theorem exists_run_along {event : ℕ → ε} {s : σ} (hs : I s)
    (henabled : ∀ t s, I s → guard s (event t) ∧ ∃ s', step s (event t) = some s' ∧ I s') :
    ∃ state, Run step guard s state event ∧ ∀ t, I (state t) := by
  choose next hnext using fun (t : ℕ) (s : {s // I s}) => (henabled t s.1 s.2).2
  let walk : ℕ → {s // I s} := fun t => t.rec ⟨s, hs⟩ fun t s => ⟨next t s, (hnext t s).2⟩
  refine ⟨fun t => (walk t).1, ⟨rfl, ?_, ?_⟩, fun t => (walk t).2⟩
  · exact fun t => (henabled t _ (walk t).2).1
  · exact fun t => (hnext t (walk t)).1

def prepend {α : Type*} (x : α) (f : ℕ → α) : ℕ → α
  | 0 => x
  | t + 1 => f t

theorem Run.cons {s₀ s : σ} {e : ε} {state : ℕ → σ} {event : ℕ → ε}
    (h : Run step guard s state event) (hguard : guard s₀ e) (hstep : step s₀ e = some s) :
    Run step guard s₀ (prepend s₀ state) (prepend e event) where
  start := rfl
  guard t := by
    cases t with
    | zero => exact hguard
    | succ t => exact h.guard t
  next t := by
    cases t with
    | zero =>
      change step s₀ e = some (state 0)
      rw [h.start]
      exact hstep
    | succ t => exact h.next t

/-- A run that can be computed, and from its end a sequence of events. -/
theorem exists_run_after [∀ s e, Decidable (guard s e)] {tail : ℕ → ε} {s₀ s : σ} {es : List ε}
    (hrun : runEvents (guarded step guard) s₀ es = some s) (hs : I s)
    (henabled : ∀ t s, I s → guard s (tail t) ∧ ∃ s', step s (tail t) = some s' ∧ I s') :
    ∃ state event, Run step guard s₀ state event ∧ state es.length = s ∧
      ∀ t, I (state (t + es.length)) ∧ event (t + es.length) = tail t := by
  induction es generalizing s₀ with
  | nil =>
    obtain rfl : s₀ = s := Option.some.inj hrun
    obtain ⟨state, h, hI⟩ := exists_run_along hs henabled
    exact ⟨state, _, h, h.start, fun t => ⟨hI t, rfl⟩⟩
  | cons f es ih =>
    obtain ⟨u, hu, hes⟩ := Option.bind_eq_some_iff.mp hrun
    obtain ⟨state, event, h, hmid, hend⟩ := ih hes
    by_cases hg : guard s₀ f
    · rw [guarded, if_pos hg] at hu
      exact ⟨_, _, h.cons hg hu, hmid, hend⟩
    · rw [guarded, if_neg hg] at hu
      cases hu

theorem exists_run [∀ s e, Decidable (guard s e)] {e : ε} {s₀ s : σ} {es : List ε}
    (hrun : runEvents (guarded step guard) s₀ es = some s) (hs : I s)
    (henabled : ∀ s, I s → guard s e ∧ ∃ t, step s e = some t ∧ I t) :
    ∃ state event, Run step guard s₀ state event ∧ state es.length = s ∧
      ∀ t, es.length ≤ t → I (state t) ∧ event t = e := by
  obtain ⟨state, event, h, hmid, hend⟩ := exists_run_after hrun hs fun _ => henabled
  refine ⟨state, event, h, hmid, fun t ht => ?_⟩
  obtain ⟨t, rfl⟩ := Nat.exists_eq_add_of_le' ht
  exact hend t

end FairRuns
