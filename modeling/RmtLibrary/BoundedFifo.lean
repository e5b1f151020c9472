import Mathlib.Data.List.Basic

/-! # Bounded first-in-first-out queues

The queue is the list of its values, oldest first. A run keeps what every call answered. -/
namespace BoundedFifo

variable {α : Type*}

inductive Call (α : Type*) where
  | put (a : α)
  | get

inductive Answer (α : Type*) where
  | stored (a : α)
  | refused (a : α)
  | taken (a : α)
  | nothing
  deriving DecidableEq

structure State (α : Type*) where
  content : List α
  answers : List (Answer α)

def initial : State α := ⟨[], []⟩

def next (cap : ℕ) (s : State α) : Call α → State α
  | .put a =>
    if s.content.length < cap then ⟨s.content ++ [a], s.answers ++ [.stored a]⟩
    else { s with answers := s.answers ++ [.refused a] }
  | .get =>
    match s.content with
    | [] => { s with answers := s.answers ++ [.nothing] }
    | a :: rest => ⟨rest, s.answers ++ [.taken a]⟩

def run (cap : ℕ) (calls : List (Call α)) : State α := calls.foldl (next cap) initial

@[simp] def Answer.stored? : Answer α → Option α
  | .stored a => some a
  | .refused _ | .taken _ | .nothing => none

@[simp] def Answer.taken? : Answer α → Option α
  | .taken a => some a
  | .stored _ | .refused _ | .nothing => none

theorem length_run_le (cap : ℕ) (calls : List (Call α)) :
    (run cap calls).content.length ≤ cap := by
  have hrun : ∀ s : State α, s.content.length ≤ cap →
      (calls.foldl (next cap) s).content.length ≤ cap := by
    induction calls with
    | nil => exact fun s h => h
    | cons c calls ih =>
      intro s h
      refine ih _ ?_
      cases c with
      | put a =>
        rw [next]
        split
        · next hlt =>
          simp only [List.length_append, List.length_cons, List.length_nil]
          omega
        · exact h
      | get =>
        rw [next]
        split
        · exact h
        · next a rest hcons =>
          rw [hcons, List.length_cons] at h
          dsimp only
          omega
  exact hrun initial (Nat.zero_le _)

end BoundedFifo
