import RmtLibrary.DdsTransport
import RmtLibrary.TwoRuns

/-! # Drains whose `dds_take` may fail

The drains of `DdsTransport` with the error path. A failing `dds_take` ends the drain and leaves
the samples that it has not taken. -/
namespace FailingDrains

open DdsTransport (Sample taken)
open TwoRuns (rel_bind)

variable {α β γ : Type}

/-- `dds_transport_try_recv` and its return value. `fails` numbers the `dds_take` that fails. -/
def tryRecv (func : α → β → Option (β × ℤ)) :
    List (Sample α) → Option ℕ → β → Option (List (Sample α) × β × ℤ)
  | [], fails, b => some ([], b, if fails = some 0 then -1 else 0)
  | s :: samples, fails, b =>
    if fails = some 0 then some (s :: samples, b, -1)
    else if s.validData then do
      let (b, _) ← func s.data b
      tryRecv func samples (fails.map (· - 1)) b
    else some (samples, b, 0)

def tryRecvInstance (key : α → ℕ) (instanceKey : ℕ) (func : α → β → Option (β × ℤ)) :
    List (Sample α) → Option ℕ → β → Option (List (Sample α) × β)
  | [], _, b => some ([], b)
  | s :: samples, fails, b =>
    if key s.data = instanceKey then
      if fails = some 0 then some (s :: samples, b)
      else if s.validData then do
        let (b, _) ← func s.data b
        tryRecvInstance key instanceKey func samples (fails.map (· - 1)) b
      else some (samples, b)
    else do
      let (left, b) ← tryRecvInstance key instanceKey func samples fails b
      some (s :: left, b)

theorem tryRecv_none (func : α → β → Option (β × ℤ)) (samples : List (Sample α)) (b : β) :
    tryRecv func samples none b =
      (DdsTransport.tryRecv func samples b).map fun r => (r.1, r.2, 0) := by
  induction samples generalizing b with
  | nil => rfl
  | cons s samples ih =>
    cases hs : s.validData with
    | false => simp [tryRecv, DdsTransport.tryRecv, hs]
    | true =>
      simp only [tryRecv, DdsTransport.tryRecv, hs, reduceCtorEq, if_false, if_true,
        Option.map_none]
      cases func s.data b with
      | none => rfl
      | some r => exact ih r.1

theorem tryRecvInstance_none (key : α → ℕ) (instanceKey : ℕ) (func : α → β → Option (β × ℤ))
    (samples : List (Sample α)) (b : β) : tryRecvInstance key instanceKey func samples none b =
      DdsTransport.tryRecvInstance key instanceKey func samples b := by
  induction samples generalizing b with
  | nil => rfl
  | cons s samples ih =>
    rw [tryRecvInstance, DdsTransport.tryRecvInstance, ih]
    simp only [reduceCtorEq, if_false, Option.map_none, ih]

def drainFails (fails : Option ℕ) (samples : List (Sample α)) : Bool :=
  fails.any (· ≤ (taken samples).length)

theorem tryRecv_ret {func : α → β → Option (β × ℤ)} {samples : List (Sample α)}
    {fails : Option ℕ} {b : β} {r : List (Sample α) × β × ℤ}
    (h : tryRecv func samples fails b = some r) :
    r.2.2 = if drainFails fails samples then -1 else 0 := by
  induction samples generalizing fails b with
  | nil =>
    cases h
    cases fails <;> simp [drainFails]
  | cons s samples ih =>
    rw [tryRecv] at h
    by_cases hfails : fails = some 0
    · rw [if_pos hfails] at h
      cases h
      simp [drainFails, hfails]
    · rw [if_neg hfails] at h
      cases hs : s.validData with
      | false =>
        rw [hs, if_neg Bool.false_ne_true] at h
        cases h
        cases fails with
        | none => simp [drainFails]
        | some k => simp_all [drainFails, DdsTransport.taken_cons]
      | true =>
        rw [hs, if_pos rfl] at h
        obtain ⟨b', -, hrest⟩ := Option.bind_eq_some_iff.mp h
        rw [ih hrest]
        cases fails with
        | none => rfl
        | some k =>
          have hpos : k ≠ 0 := fun hk => hfails (congrArg some hk)
          have hle : k - 1 ≤ (taken samples).length ↔ k ≤ (taken samples).length + 1 := by omega
          simp [drainFails, DdsTransport.taken_cons, hs, hle]

theorem tryRecv_total {func : α → β → Option (β × ℤ)} (hfunc : ∀ a b, (func a b).isSome)
    (samples : List (Sample α)) (fails : Option ℕ) (b : β) :
    (tryRecv func samples fails b).isSome := by
  induction samples generalizing fails b with
  | nil => rfl
  | cons s samples ih =>
    rw [tryRecv]
    split
    · rfl
    · split
      · obtain ⟨r, hr⟩ := Option.isSome_iff_exists.mp (hfunc s.data b)
        rw [hr]
        exact ih _ r.1
      · rfl

theorem tryRecvInstance_keeps {P : β → Prop} {func : α → β → Option (β × ℤ)}
    (hfunc : ∀ a b, P b → ∃ r, func a b = some r ∧ P r.1) (key : α → ℕ) (instanceKey : ℕ)
    (samples : List (Sample α)) (fails : Option ℕ) {b : β} (h : P b) :
    ∃ r, tryRecvInstance key instanceKey func samples fails b = some r ∧ P r.2 := by
  induction samples generalizing fails b with
  | nil => exact ⟨_, rfl, h⟩
  | cons s samples ih =>
    rw [tryRecvInstance]
    split
    · split
      · exact ⟨_, rfl, h⟩
      · split
        · obtain ⟨r, hr, hP⟩ := hfunc s.data b h
          rw [hr]
          exact ih _ hP
        · exact ⟨_, rfl, h⟩
    · obtain ⟨r, hr, hP⟩ := ih fails h
      rw [hr]
      exact ⟨_, rfl, hP⟩

variable {R : β → γ → Prop} {f : α → β → Option (β × ℤ)} {g : α → γ → Option (γ × ℤ)}

/-- Callbacks that keep a relation take and leave the same samples, and keep it. -/
theorem tryRecv_rel
    (hfg : ∀ a b c, R b c → Option.Rel (fun r r' => R r.1 r'.1) (f a b) (g a c))
    (samples : List (Sample α)) (fails : Option ℕ) {b : β} {c : γ} (h : R b c) :
    Option.Rel (fun r r' => r.1 = r'.1 ∧ R r.2.1 r'.2.1 ∧ r.2.2 = r'.2.2)
      (tryRecv f samples fails b) (tryRecv g samples fails c) := by
  induction samples generalizing fails b c with
  | nil => exact .some ⟨rfl, h, rfl⟩
  | cons s samples ih =>
    rw [tryRecv, tryRecv]
    split
    · exact .some ⟨rfl, h, rfl⟩
    · split
      · exact rel_bind (hfg s.data b c h) fun _ _ h' => ih _ h'
      · exact .some ⟨rfl, h, rfl⟩

theorem tryRecvInstance_rel (key : α → ℕ) (instanceKey : ℕ)
    (hfg : ∀ a b c, R b c → Option.Rel (fun r r' => R r.1 r'.1) (f a b) (g a c))
    (samples : List (Sample α)) (fails : Option ℕ) {b : β} {c : γ} (h : R b c) :
    Option.Rel (fun r r' => r.1 = r'.1 ∧ R r.2 r'.2)
      (tryRecvInstance key instanceKey f samples fails b)
      (tryRecvInstance key instanceKey g samples fails c) := by
  induction samples generalizing fails b c with
  | nil => exact .some ⟨rfl, h⟩
  | cons s samples ih =>
    rw [tryRecvInstance, tryRecvInstance]
    split
    · split
      · exact .some ⟨rfl, h⟩
      · split
        · exact rel_bind (hfg s.data b c h) fun _ _ h' => ih _ h'
        · exact .some ⟨rfl, h⟩
    · refine rel_bind (ih fails h) ?_
      rintro ⟨left, b'⟩ ⟨left', c'⟩ ⟨hleft, h'⟩
      obtain rfl : left = left' := hleft
      exact .some ⟨rfl, h'⟩

end FailingDrains
