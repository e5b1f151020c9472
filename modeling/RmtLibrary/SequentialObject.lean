import Mathlib.Data.List.Basic

/-! # Histories of a sequential object

An operation of the object may be undefined, and otherwise answers and leaves a new state. A
history lists operations with their answers. It is legal from one state to another if the object
gives these answers when it runs the operations one after the other. -/
namespace SequentialObject

variable {σ ι ρ β : Type*} {apply : ι → σ → Option (ρ × σ)} {w w' : σ}
  {history later : List (ι × ρ)}

def Legal (apply : ι → σ → Option (ρ × σ)) : σ → List (ι × ρ) → σ → Prop
  | w, [], w' => w = w'
  | w, (op, answer) :: history, w' =>
    ∃ u, apply op w = some (answer, u) ∧ Legal apply u history w'

theorem legal_append :
    Legal apply w (history ++ later) w' ↔
      ∃ u, Legal apply w history u ∧ Legal apply u later w' := by
  induction history generalizing w with
  | nil => simp [Legal]
  | cons entry history ih =>
    obtain ⟨op, answer⟩ := entry
    simp only [List.cons_append, Legal, ih]
    constructor
    · rintro ⟨v, hv, u, hu, hlater⟩
      exact ⟨u, ⟨v, hv, hu⟩, hlater⟩
    · rintro ⟨u, ⟨v, hv, hu⟩, hlater⟩
      exact ⟨v, hv, u, hu, hlater⟩

theorem Legal.append {u : σ} (h : Legal apply w history u) (hlater : Legal apply u later w') :
    Legal apply w (history ++ later) w' := legal_append.mpr ⟨u, h, hlater⟩

theorem Legal.unique {v : σ} (h : Legal apply w history w') (hv : Legal apply w history v) :
    w' = v := by
  induction history generalizing w with
  | nil => exact h.symm.trans hv
  | cons entry history ih =>
    obtain ⟨op, answer⟩ := entry
    obtain ⟨u, hu, h⟩ := h
    obtain ⟨u', hu', hv⟩ := hv
    obtain rfl : u = u' := (Prod.mk.inj (Option.some.inj (hu.symm.trans hu'))).2
    exact ih h hv

/-- Each entry acted in the state that the entries before it lead to. -/
theorem Legal.split {entry : ι × ρ} (h : Legal apply w (history ++ entry :: later) w') :
    ∃ u u', Legal apply w history u ∧ apply entry.1 u = some (entry.2, u') ∧
      Legal apply u' later w' := by
  obtain ⟨u, hu, u', hu', hlater⟩ := legal_append.mp h
  exact ⟨u, u', hu, hu', hlater⟩

theorem Legal.invariant {P : σ → Prop} (h : Legal apply w history w') (hw : P w)
    (hkeep : ∀ entry ∈ history, ∀ u u', P u → apply entry.1 u = some (entry.2, u') → P u') :
    P w' := by
  induction history generalizing w with
  | nil => exact h ▸ hw
  | cons entry history ih =>
    obtain ⟨op, answer⟩ := entry
    obtain ⟨u, hu, h⟩ := h
    have hPu := hkeep _ List.mem_cons_self w u hw hu
    exact ih h hPu fun entry hentry => hkeep entry (List.mem_cons_of_mem _ hentry)

theorem Legal.view_eq (view : σ → β) (h : Legal apply w history w')
    (hkeep : ∀ entry ∈ history, ∀ u u', apply entry.1 u = some (entry.2, u') →
      view u' = view u) : view w' = view w :=
  h.invariant (P := fun u => view u = view w) rfl fun entry hentry u u' hu hstep =>
    (hkeep entry hentry u u' hstep).trans hu

theorem exists_between {α : Type*} {a b : α} {l : List α} (h : [a, b].Sublist l) :
    ∃ before mid behind, l = before ++ a :: (mid ++ b :: behind) := by
  obtain ⟨front, rest, rfl, ha, hb⟩ := List.cons_sublist_iff.mp h
  obtain ⟨before, mid, rfl⟩ := List.append_of_mem ha
  obtain ⟨mid', behind, rfl⟩ := List.append_of_mem (List.singleton_sublist.mp hb)
  exact ⟨before, mid ++ mid', behind, by simp⟩

end SequentialObject
