import Mathlib.Data.Int.Notation
import Mathlib.Data.List.Basic
import Mathlib.Data.List.TakeWhile

/-! # Draining a DDS reader

A reader holds the samples that have arrived, in order. `dds_take` removes one of them, and a
sample without valid data (a writer that went away) ends the drain it is met in. -/
namespace DdsTransport

variable {α β : Type}

structure Sample (α : Type) where
  validData : Bool
  data : α
  deriving DecidableEq, Repr

/-- `dds_transport_try_recv`. The callback's return value is ignored. -/
def tryRecv (func : α → β → Option (β × ℤ)) : List (Sample α) → β →
    Option (List (Sample α) × β)
  | [], b => some ([], b)
  | s :: samples, b =>
    if s.validData then do
      let (b, _) ← func s.data b
      tryRecv func samples b
    else some (samples, b)

/-- `dds_transport_try_recv_instance`: samples of other instances stay where they are. -/
def tryRecvInstance (key : α → ℕ) (instanceKey : ℕ) (func : α → β → Option (β × ℤ)) :
    List (Sample α) → β → Option (List (Sample α) × β)
  | [], b => some ([], b)
  | s :: samples, b =>
    if key s.data = instanceKey then
      if s.validData then do
        let (b, _) ← func s.data b
        tryRecvInstance key instanceKey func samples b
      else some (samples, b)
    else do
      let (left, b) ← tryRecvInstance key instanceKey func samples b
      some (s :: left, b)

def taken (samples : List (Sample α)) : List α :=
  (samples.takeWhile Sample.validData).map Sample.data

def left (samples : List (Sample α)) : List (Sample α) :=
  (samples.dropWhile Sample.validData).tail

def runCallback (func : α → β → Option (β × ℤ)) (b : β) (msgs : List α) : Option β :=
  msgs.foldlM (fun b msg => (func msg b).map Prod.fst) b

@[simp] theorem runCallback_nil (func : α → β → Option (β × ℤ)) (b : β) :
    runCallback func b [] = some b := rfl

theorem runCallback_cons (func : α → β → Option (β × ℤ)) (b : β) (msg : α) (msgs : List α) :
    runCallback func b (msg :: msgs) =
      (func msg b).bind fun r => runCallback func r.1 msgs := by
  simp only [runCallback, List.foldlM_cons]
  cases func msg b <;> rfl

@[simp] theorem taken_nil : taken ([] : List (Sample α)) = [] := rfl

theorem taken_cons (s : Sample α) (samples : List (Sample α)) :
    taken (s :: samples) = if s.validData then s.data :: taken samples else [] := by
  cases hs : s.validData <;> simp [taken, hs]

theorem tryRecv_eq (func : α → β → Option (β × ℤ)) (samples : List (Sample α)) (b : β) :
    tryRecv func samples b =
      (runCallback func b (taken samples)).map fun b => (left samples, b) := by
  induction samples generalizing b with
  | nil => rfl
  | cons s samples ih =>
    cases hs : s.validData with
    | false => simp [tryRecv, taken, left, hs]
    | true =>
      have hleft : left (s :: samples) = left samples := by simp [left, hs]
      rw [taken_cons, if_pos hs, runCallback_cons, hleft, tryRecv, if_pos hs]
      cases func s.data b with
      | none => rfl
      | some r => exact ih r.1

def takenOf (key : α → ℕ) (instanceKey : ℕ) (samples : List (Sample α)) : List α :=
  taken (samples.filter fun s => key s.data = instanceKey)

def leftOf (key : α → ℕ) (instanceKey : ℕ) : List (Sample α) → List (Sample α)
  | [] => []
  | s :: samples =>
    if key s.data = instanceKey then
      if s.validData then leftOf key instanceKey samples else samples
    else s :: leftOf key instanceKey samples

theorem tryRecvInstance_eq (key : α → ℕ) (instanceKey : ℕ) (func : α → β → Option (β × ℤ))
    (samples : List (Sample α)) (b : β) :
    tryRecvInstance key instanceKey func samples b =
      (runCallback func b (takenOf key instanceKey samples)).map
        fun b => (leftOf key instanceKey samples, b) := by
  induction samples generalizing b with
  | nil => rfl
  | cons s samples ih =>
    by_cases hk : key s.data = instanceKey
    · cases hs : s.validData with
      | false => simp [tryRecvInstance, takenOf, taken_cons, leftOf, hk, hs]
      | true =>
        simp only [tryRecvInstance, takenOf, leftOf, hk, hs, if_true, decide_true,
          List.filter_cons_of_pos, taken_cons, runCallback_cons]
        cases func s.data b with
        | none => rfl
        | some r => exact ih r.1
    · simp only [tryRecvInstance, takenOf, leftOf, hk, if_false, decide_false, Bool.false_eq_true,
        not_false_eq_true, List.filter_cons_of_neg]
      rw [ih, takenOf]
      cases runCallback func b (taken (samples.filter fun s => key s.data = instanceKey)) <;> rfl

def valid (samples : List (Sample α)) : List α :=
  (samples.filter Sample.validData).map Sample.data

theorem valid_cons (s : Sample α) (samples : List (Sample α)) :
    valid (s :: samples) = if s.validData then s.data :: valid samples else valid samples := by
  cases hs : s.validData <;> simp [valid, hs]

theorem valid_append (samples samples' : List (Sample α)) :
    valid (samples ++ samples') = valid samples ++ valid samples' := by
  simp [valid]

/-- A drain takes nothing twice and loses nothing. -/
theorem taken_append_left (samples : List (Sample α)) :
    taken samples ++ valid (left samples) = valid samples := by
  induction samples with
  | nil => rfl
  | cons s samples ih =>
    rw [taken_cons, valid_cons]
    cases hs : s.validData with
    | false => simp [left, hs]
    | true =>
      have hleft : left (s :: samples) = left samples := by simp [left, hs]
      rw [hleft, if_pos rfl, if_pos rfl, List.cons_append, ih]

theorem takenOf_append_leftOf (key : α → ℕ) (instanceKey : ℕ) (samples : List (Sample α)) :
    (takenOf key instanceKey samples ++ valid (leftOf key instanceKey samples)).Perm
      (valid samples) := by
  induction samples with
  | nil => exact .refl _
  | cons s samples ih =>
    by_cases hk : key s.data = instanceKey
    · have htaken : takenOf key instanceKey (s :: samples) =
          if s.validData then s.data :: takenOf key instanceKey samples else [] := by
        rw [takenOf, List.filter_cons_of_pos (by simpa using hk), taken_cons]
        rfl
      rw [htaken, leftOf, if_pos hk, valid_cons]
      cases hs : s.validData with
      | false => exact .refl _
      | true => exact ih.cons s.data
    · have htaken : takenOf key instanceKey (s :: samples) = takenOf key instanceKey samples := by
        rw [takenOf, List.filter_cons_of_neg (by simpa using hk)]
        rfl
      rw [htaken, leftOf, if_neg hk, valid_cons, valid_cons]
      cases hs : s.validData with
      | false => exact ih
      | true => exact List.perm_middle.trans (ih.cons s.data)

theorem leftOf_sublist (key : α → ℕ) (instanceKey : ℕ) (samples : List (Sample α)) :
    (leftOf key instanceKey samples).Sublist samples := by
  induction samples with
  | nil => exact List.Sublist.slnil
  | cons s samples ih =>
    rw [leftOf]
    split
    · split
      · exact ih.cons s
      · exact List.sublist_cons_self s samples
    · exact ih.cons_cons s

theorem mem_takenOf {key : α → ℕ} {instanceKey : ℕ} {samples : List (Sample α)} {a : α}
    (h : a ∈ takenOf key instanceKey samples) : (⟨true, a⟩ : Sample α) ∈ samples := by
  obtain ⟨sample, hs, rfl⟩ := List.mem_map.mp h
  have hvalid := List.mem_takeWhile_imp hs
  have hmem := List.mem_of_mem_filter ((List.takeWhile_sublist _).subset hs)
  obtain ⟨valid, a⟩ := sample
  obtain rfl : valid = true := hvalid
  exact hmem

end DdsTransport
