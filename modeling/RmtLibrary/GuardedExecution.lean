import Mathlib.Data.List.Basic

/-! # Executions of a partial step function

A step function that answers `none` stands for a program that faults there. Guards restrict
which events are allowed in which state, so that one execution type serves both "every run"
(the guard is always true) and "every run whose steps all meet a condition". -/
namespace GuardedExecution

variable {σ τ ε : Type*}

/-- States reached from `s₀` by events that meet `guard` and do not fault. -/
inductive Execution (step : σ → ε → Option σ) (guard : σ → ε → Prop) (s₀ : σ) : σ → Prop where
  | refl : Execution step guard s₀ s₀
  | tail {s t e} : Execution step guard s₀ s → guard s e → step s e = some t →
      Execution step guard s₀ t

def Reachable (step : σ → ε → Option σ) (s₀ s : σ) : Prop :=
  Execution step (fun _ _ => True) s₀ s

theorem Execution.trans {step : σ → ε → Option σ} {guard : σ → ε → Prop} {s₀ s t : σ}
    (h : Execution step guard s₀ s) (h' : Execution step guard s t) :
    Execution step guard s₀ t := by
  induction h' with
  | refl => exact h
  | tail _ hg hs ih => exact .tail ih hg hs

theorem Execution.invariant {step : σ → ε → Option σ} {guard : σ → ε → Prop} {s₀ s : σ}
    {I : σ → Prop} (h : Execution step guard s₀ s) (h₀ : I s₀)
    (hstep : ∀ s e t, I s → guard s e → step s e = some t → I t) : I s := by
  induction h with
  | refl => exact h₀
  | tail _ hg hs ih => exact hstep _ _ _ ih hg hs

theorem Execution.mono {step : σ → ε → Option σ} {guard guard' : σ → ε → Prop} {s₀ s : σ}
    (h : Execution step guard s₀ s) (hguard : ∀ s e, guard s e → guard' s e) :
    Execution step guard' s₀ s := by
  induction h with
  | refl => exact .refl
  | tail _ hg hs ih => exact .tail ih (hguard _ _ hg) hs

def runEvents (step : σ → ε → Option σ) (s : σ) : List ε → Option σ
  | [] => some s
  | e :: es => (step s e).bind fun t => runEvents step t es

theorem reachable_of_runEvents {step : σ → ε → Option σ} {s₀ s t : σ} {es : List ε}
    (hs : Reachable step s₀ s) (h : runEvents step s es = some t) : Reachable step s₀ t := by
  induction es generalizing s with
  | nil =>
    cases h
    exact hs
  | cons e es ih =>
    obtain ⟨u, hu, ht⟩ := Option.bind_eq_some_iff.mp h
    exact ih (.tail hs trivial hu) ht

theorem exists_reachable {step : σ → ε → Option σ} {s₀ : σ} (P : σ → Prop) [DecidablePred P]
    (es : List ε) (h : (runEvents step s₀ es).any (fun s => decide (P s)) = true) :
    ∃ s, Reachable step s₀ s ∧ P s := by
  obtain ⟨s, hs, hP⟩ := (Option.any_eq_true _ _).mp h
  exact ⟨s, reachable_of_runEvents .refl hs, of_decide_eq_true hP⟩

def guarded (step : σ → ε → Option σ) (guard : σ → ε → Prop) [∀ s e, Decidable (guard s e)]
    (s : σ) (e : ε) : Option σ := if guard s e then step s e else none

theorem execution_of_runEvents {step : σ → ε → Option σ} {guard : σ → ε → Prop}
    [∀ s e, Decidable (guard s e)] {s₀ s t : σ} {es : List ε} (hs : Execution step guard s₀ s)
    (h : runEvents (guarded step guard) s es = some t) : Execution step guard s₀ t := by
  induction es generalizing s with
  | nil =>
    cases h
    exact hs
  | cons e es ih =>
    obtain ⟨u, hu, ht⟩ := Option.bind_eq_some_iff.mp h
    by_cases hg : guard s e
    · rw [guarded, if_pos hg] at hu
      exact ih (.tail hs hg hu) ht
    · rw [guarded, if_neg hg] at hu
      simp at hu

theorem exists_execution (step : σ → ε → Option σ) (guard : σ → ε → Prop)
    [∀ s e, Decidable (guard s e)] (s₀ : σ) (P : σ → Prop) [DecidablePred P] (es : List ε)
    (h : (runEvents (guarded step guard) s₀ es).any (fun s => decide (P s)) = true) :
    ∃ s, runEvents (guarded step guard) s₀ es = some s ∧ Execution step guard s₀ s ∧ P s := by
  obtain ⟨s, hs, hP⟩ := (Option.any_eq_true _ _).mp h
  exact ⟨s, hs, execution_of_runEvents .refl hs, of_decide_eq_true hP⟩

theorem runEvents_append (step : σ → ε → Option σ) (s : σ) (es fs : List ε) :
    runEvents step s (es ++ fs) = (runEvents step s es).bind fun t => runEvents step t fs := by
  induction es generalizing s with
  | nil => rfl
  | cons e es ih =>
    simp only [List.cons_append, runEvents, Option.bind_assoc]
    cases step s e with
    | none => rfl
    | some t => simp only [Option.bind_some, ih]

/-- Every event of the list meets `ok` in the state of `next` it is met in. -/
def RunsWithin (next : τ → ε → τ) (ok : τ → ε → Prop) : τ → List ε → Prop
  | _, [] => True
  | t, e :: es => ok t e ∧ RunsWithin next ok (next t e) es

instance RunsWithin.decidable {next : τ → ε → τ} {ok : τ → ε → Prop}
    [∀ t e, Decidable (ok t e)] : (t : τ) → (es : List ε) → Decidable (RunsWithin next ok t es)
  | _, [] => isTrue trivial
  | t, e :: es =>
    have := @RunsWithin.decidable next ok _ (next t e) es
    inferInstanceAs (Decidable (ok t e ∧ RunsWithin next ok (next t e) es))

theorem RunsWithin.append {next : τ → ε → τ} {ok : τ → ε → Prop} {t : τ} {es fs : List ε} :
    RunsWithin next ok t (es ++ fs) ↔
      RunsWithin next ok t es ∧ RunsWithin next ok (es.foldl next t) fs := by
  induction es generalizing t with
  | nil => simp [RunsWithin]
  | cons e es ih => simp [RunsWithin, ih, and_assoc]

/-- Lockstep refinement. If each concrete step follows the abstract one and keeps `R` whenever
the abstract step meets `ok`, a run inside `ok` neither faults nor leaves `R`. -/
theorem runEvents_refines {step : σ → ε → Option σ} {next : τ → ε → τ} {R : σ → τ → Prop}
    {ok : τ → ε → Prop}
    (hstep : ∀ s t e, R s t → ok t e → ∃ s', step s e = some s' ∧ R s' (next t e))
    {es : List ε} {s : σ} {t : τ} (hR : R s t) (hok : RunsWithin next ok t es) :
    ∃ s', runEvents step s es = some s' ∧ R s' (es.foldl next t) := by
  induction es generalizing s t with
  | nil => exact ⟨s, rfl, hR⟩
  | cons e es ih =>
    obtain ⟨u, hu, hRu⟩ := hstep s t e hR hok.1
    obtain ⟨s', hs', hR'⟩ := ih hRu hok.2
    exact ⟨s', by simp only [runEvents, hu, Option.bind_some, hs'], hR'⟩

/-- Every event of the run is `good` in the state it is met in. Nothing is asked after a fault. -/
def AllSteps (step : σ → ε → Option σ) (good : σ → ε → Prop) : σ → List ε → Prop
  | _, [] => True
  | s, e :: es => good s e ∧ ∀ t, step s e = some t → AllSteps step good t es

theorem AllSteps.last {step : σ → ε → Option σ} {good : σ → ε → Prop} {s t : σ} {es : List ε}
    {e : ε} (h : AllSteps step good s (es ++ [e])) (hrun : runEvents step s es = some t) :
    good t e := by
  induction es generalizing s with
  | nil =>
    cases hrun
    exact h.1
  | cons e' es ih =>
    obtain ⟨u, hu, ht⟩ := Option.bind_eq_some_iff.mp hrun
    exact ih (h.2 u hu) ht

/-- If an event is `good` in a state exactly if it is `ok` in the abstract one, and only events
that are not `ok` fault or leave the relation, the two agree on whole runs. -/
theorem allSteps_iff_runsWithin {step : σ → ε → Option σ} {next : τ → ε → τ} {R : σ → τ → Prop}
    {good : σ → ε → Prop} {ok : τ → ε → Prop} (hgood : ∀ s t e, R s t → (good s e ↔ ok t e))
    (hstep : ∀ s t e, R s t → ok t e → ∃ s', step s e = some s' ∧ R s' (next t e))
    {s : σ} {t : τ} (hR : R s t) (es : List ε) :
    AllSteps step good s es ↔ RunsWithin next ok t es := by
  induction es generalizing s t with
  | nil => exact Iff.rfl
  | cons e es ih =>
    constructor
    · rintro ⟨he, hes⟩
      have hok := (hgood s t e hR).mp he
      obtain ⟨s', hs', hR'⟩ := hstep s t e hR hok
      exact ⟨hok, (ih hR').mp (hes s' hs')⟩
    · rintro ⟨hok, hes⟩
      refine ⟨(hgood s t e hR).mpr hok, ?_⟩
      intro s' hs'
      obtain ⟨u, hu, hR'⟩ := hstep s t e hR hok
      obtain rfl : u = s' := Option.some.inj (hu.symm.trans hs')
      exact (ih hR').mpr hes

end GuardedExecution
