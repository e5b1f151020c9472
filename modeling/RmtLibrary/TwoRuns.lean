import RmtLibrary.GuardedExecution
import Mathlib.Data.List.Forall2
import Mathlib.Data.Option.Defs

/-! # Two runs over different memory

A step may read memory that nothing has assigned. A second machine, the shadow, follows the
first without such memory and knows what is assigned. Two runs with the same events show the
same outputs over any two memories exactly if no event shows what the shadow does not know. -/
namespace TwoRuns

open GuardedExecution

variable {α β α' β' μ κ σ τ ε ω : Type*}

theorem rel_cases {R : α → β → Prop} {x : Option α} {y : Option β} (h : Option.Rel R x y) :
    (x = none ∧ y = none) ∨ ∃ a b, x = some a ∧ y = some b ∧ R a b := by
  cases h with
  | none => exact Or.inl ⟨rfl, rfl⟩
  | some hab => exact Or.inr ⟨_, _, rfl, rfl, hab⟩

theorem rel_bind {R : α → β → Prop} {S : α' → β' → Prop} {x : Option α} {y : Option β}
    {f : α → Option α'} {g : β → Option β'} (h : Option.Rel R x y)
    (hf : ∀ a b, R a b → Option.Rel S (f a) (g b)) : Option.Rel S (x.bind f) (y.bind g) := by
  cases h with
  | none => exact .none
  | some hab => exact hf _ _ hab

theorem rel_map_left {R : α → β → Prop} {S : α' → β → Prop} {x : Option α} {y : Option β}
    {f : α → α'} (h : Option.Rel R x y) (hf : ∀ a b, R a b → S (f a) b) :
    Option.Rel S (x.map f) y := by
  cases h with
  | none => exact .none
  | some hab => exact .some (hf _ _ hab)

section Lists

variable {R : α → β → Prop} {p : α → Bool} {q : β → Bool} {as : List α} {bs : List β}

theorem forall₂_any (hpq : ∀ a b, R a b → p a = q b) (h : List.Forall₂ R as bs) :
    as.any p = bs.any q := by
  induction h with
  | nil => rfl
  | cons hab _ ih => rw [List.any_cons, List.any_cons, hpq _ _ hab, ih]

theorem forall₂_find? (hpq : ∀ a b, R a b → p a = q b) (h : List.Forall₂ R as bs) :
    Option.Rel R (as.find? p) (bs.find? q) := by
  induction h with
  | nil => exact .none
  | @cons a b as bs hab _ ih =>
    rw [List.find?_cons, List.find?_cons, hpq a b hab]
    split
    · exact .some hab
    · exact ih

theorem forall₂_eraseP (hpq : ∀ a b, R a b → p a = q b) (h : List.Forall₂ R as bs) :
    List.Forall₂ R (as.eraseP p) (bs.eraseP q) := by
  induction h with
  | nil => exact .nil
  | @cons a b as bs hab ht ih =>
    rw [List.eraseP_cons, List.eraseP_cons, hpq a b hab]
    cases q b with
    | false => exact .cons hab ih
    | true => exact ht

end Lists

/-- The outputs of a run up to its first fault. Each event finds its part of the memory. -/
def observe (step : μ → σ → ε → Option (σ × Option ω)) : σ → List ε → (ℕ → μ) → List ω
  | _, [], _ => []
  | s, e :: es, memory =>
    match step (memory 0) s e with
    | none => []
    | some (t, out) => out.toList ++ observe step t es fun n => memory (n + 1)

def answers (next : τ → ε → Option τ) (answer : τ → ε → Option ω) : τ → List ε → List ω
  | _, [] => []
  | t, e :: es =>
    match next t e with
    | none => []
    | some t' => (answer t e).toList ++ answers next answer t' es

/-- The shadow follows the machine, where `Fits k` is what is known of the memory, and says what
an event shows that is `ok`. -/
def Follows (step : μ → σ → ε → Option (σ × Option ω)) (next : τ → ε → Option τ)
    (answer : τ → ε → Option ω) (ok : τ → ε → Prop) (Fits : κ → μ → Prop)
    (R : κ → σ → τ → Prop) : Prop :=
  ∀ k m s t e, Fits k m → R k s t →
    Option.Rel (fun r t' => R k r.1 t' ∧ (ok t e → r.2 = answer t e)) (step m s e) (next t e)

variable {step : μ → σ → ε → Option (σ × Option ω)} {next : τ → ε → Option τ}
  {answer : τ → ε → Option ω} {ok : τ → ε → Prop} {Fits : κ → μ → Prop} {R : κ → σ → τ → Prop}

theorem observe_eq_answers (hstep : Follows step next answer ok Fits R) {k : κ} {s : σ} {t : τ}
    {es : List ε} {memory : ℕ → μ} (hmem : ∀ n, Fits k (memory n)) (hR : R k s t)
    (hok : AllSteps next ok t es) : observe step s es memory = answers next answer t es := by
  induction es generalizing s t memory with
  | nil => rfl
  | cons e es ih =>
    have hrel := hstep k (memory 0) s t e (hmem 0) hR
    rw [observe, answers]
    rcases rel_cases hrel with ⟨hs, hn⟩ | ⟨r, t', hs, hn, hR', hout⟩
    · simp only [hs, hn]
    · simp only [hs, hn, hout hok.1]
      rw [ih (fun n => hmem (n + 1)) hR' (hok.2 t' hn)]

/-- If an event that is not `ok` shows different outputs over two kinds of memory, runs over them
agree only as long as every event is `ok`. -/
theorem allSteps_of_observe_eq (hstep : Follows step next answer ok Fits R) {k k' : κ}
    (hbad : ∀ m m' s s' t e, Fits k m → Fits k' m' → R k s t → R k' s' t → ¬ ok t e →
      ∃ r r' x x', step m s e = some (r, some x) ∧ step m' s' e = some (r', some x') ∧ x ≠ x')
    {s s' : σ} {t : τ} {es : List ε} {memory memory' : ℕ → μ} (hmem : ∀ n, Fits k (memory n))
    (hmem' : ∀ n, Fits k' (memory' n)) (hR : R k s t) (hR' : R k' s' t)
    (heq : observe step s es memory = observe step s' es memory') : AllSteps next ok t es := by
  induction es generalizing s s' t memory memory' with
  | nil => trivial
  | cons e es ih =>
    rw [observe, observe] at heq
    have hok : ok t e := by
      by_contra hnot
      obtain ⟨r, r', x, x', hs, hs', hne⟩ := hbad _ _ s s' t e (hmem 0) (hmem' 0) hR hR' hnot
      rw [hs, hs'] at heq
      exact hne (List.cons.inj heq).1
    refine ⟨hok, ?_⟩
    intro t' hn
    have hrel := hstep k (memory 0) s t e (hmem 0) hR
    have hrel' := hstep k' (memory' 0) s' t e (hmem' 0) hR'
    rw [hn] at hrel hrel'
    rcases rel_cases hrel with ⟨-, hnone⟩ | ⟨r, u, hs, hu, hr, hout⟩
    · cases hnone
    rcases rel_cases hrel' with ⟨-, hnone⟩ | ⟨r', u', hs', hu', hr', hout'⟩
    · cases hnone
    cases hu
    cases hu'
    simp only [hs, hs', hout hok, hout' hok, List.append_cancel_left_eq] at heq
    exact ih (fun n => hmem (n + 1)) (fun n => hmem' (n + 1)) hr hr' heq

end TwoRuns
