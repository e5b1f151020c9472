import Mathlib.Data.List.Nodup
import Mathlib.Data.List.Range
import Mathlib.Data.Nat.ModEq

/-! # Index rings

A ring of `n` slots with a front and a rear index, each advanced modulo `n` before it is used.
One slot stays unused, so that a full ring differs from an empty one. -/
namespace RingQueue

structure Ring where
  front : ℕ
  rear : ℕ
  deriving DecidableEq, Repr

def enqueue (n : ℕ) (r : Ring) : Ring × Option ℕ :=
  if (r.rear + 1) % n = r.front then (r, none)
  else ({ r with rear := (r.rear + 1) % n }, some ((r.rear + 1) % n))

def dequeue (n : ℕ) (r : Ring) : Ring × Option ℕ :=
  if r.front = r.rear then (r, none)
  else ({ r with front := (r.front + 1) % n }, some ((r.front + 1) % n))

def indices (n front len : ℕ) : List ℕ := (List.range len).map fun i => (front + 1 + i) % n

structure Holds (n : ℕ) (r : Ring) (is : List ℕ) : Prop where
  front_lt : r.front < n
  fits : is.length < n
  rear_eq : r.rear = (r.front + is.length) % n
  slots : is = indices n r.front is.length

@[simp] theorem length_indices (n front len : ℕ) : (indices n front len).length = len := by
  simp [indices]

theorem indices_succ (n front len : ℕ) :
    indices n front (len + 1) = indices n front len ++ [(front + 1 + len) % n] := by
  simp [indices, List.range_succ]

theorem indices_cons (n front len : ℕ) :
    indices n front (len + 1) = ((front + 1) % n) :: indices n ((front + 1) % n) len := by
  simp only [indices, List.range_succ_eq_map, List.map_cons, List.map_map, Nat.add_zero]
  congr 1
  apply List.map_congr_left
  intro i _
  simp only [Function.comp_apply, Nat.succ_eq_add_one]
  rw [Nat.add_assoc ((front + 1) % n), Nat.mod_add_mod]
  congr 1
  omega

theorem indices_lt {n front len i : ℕ} (hn : 0 < n) (hi : i ∈ indices n front len) : i < n := by
  obtain ⟨j, -, hj⟩ := List.mem_map.mp hi
  rw [← hj]
  exact Nat.mod_lt _ hn

theorem add_mod_inj {n a i j : ℕ} (hi : i < n) (hj : j < n) (h : (a + i) % n = (a + j) % n) :
    i = j := by
  have hmod : i ≡ j [MOD n] := Nat.ModEq.add_left_cancel' a h
  rw [Nat.ModEq, Nat.mod_eq_of_lt hi, Nat.mod_eq_of_lt hj] at hmod
  exact hmod

theorem indices_nodup {n front len : ℕ} (h : len ≤ n) : (indices n front len).Nodup := by
  apply List.Nodup.map_on _ List.nodup_range
  intro i hi j hj he
  simp only [List.mem_range] at hi hj
  exact add_mod_inj (by omega) (by omega) he

theorem Holds.nodup {n : ℕ} {r : Ring} {is : List ℕ} (h : Holds n r is) : is.Nodup := by
  rw [h.slots]
  exact indices_nodup (Nat.le_of_lt h.fits)

theorem Holds.lt {n : ℕ} {r : Ring} {is : List ℕ} (h : Holds n r is) {i : ℕ} (hi : i ∈ is) :
    i < n := by
  rw [h.slots] at hi
  exact indices_lt (Nat.lt_of_le_of_lt (Nat.zero_le _) h.fits) hi

theorem holds_empty {n front : ℕ} (hf : front < n) : Holds n ⟨front, front⟩ [] where
  front_lt := hf
  fits := Nat.lt_of_le_of_lt (Nat.zero_le _) hf
  rear_eq := (Nat.mod_eq_of_lt hf).symm
  slots := rfl

theorem Holds.next_rear {n : ℕ} {r : Ring} {is : List ℕ} (h : Holds n r is) :
    (r.rear + 1) % n = (r.front + 1 + is.length) % n := by
  rw [h.rear_eq, Nat.mod_add_mod]
  congr 1
  omega

theorem Holds.full_iff {n : ℕ} {r : Ring} {is : List ℕ} (h : Holds n r is) :
    (r.rear + 1) % n = r.front ↔ is.length + 1 = n := by
  have hf := h.front_lt
  have hl := h.fits
  rw [h.next_rear]
  constructor
  · intro he
    by_contra hne
    have hback : (r.front + (1 + is.length)) % n = (r.front + 0) % n := by
      rw [Nat.add_zero, Nat.mod_eq_of_lt hf, ← Nat.add_assoc, he]
    have hzero := add_mod_inj (by omega) (by omega) hback
    omega
  · intro he
    have hsum : r.front + 1 + is.length = r.front + n := by omega
    rw [hsum, Nat.add_mod_right, Nat.mod_eq_of_lt hf]

theorem Holds.enqueue_full {n : ℕ} {r : Ring} {is : List ℕ} (h : Holds n r is)
    (hl : is.length + 1 = n) : enqueue n r = (r, none) := by
  rw [enqueue, if_pos (h.full_iff.mpr hl)]

theorem Holds.enqueue_next {n : ℕ} {r : Ring} {is : List ℕ} (h : Holds n r is)
    (hl : is.length + 1 < n) : ∃ r' i, enqueue n r = (r', some i) ∧ i < n ∧ i ∉ is ∧
      r'.front = r.front ∧ Holds n r' (is ++ [i]) := by
  have hne : (r.rear + 1) % n ≠ r.front := by
    rw [Ne, h.full_iff]
    omega
  have hgrow : is ++ [(r.rear + 1) % n] = indices n r.front (is.length + 1) := by
    rw [indices_succ, ← h.slots, h.next_rear]
  have hnodup : (is ++ [(r.rear + 1) % n]).Nodup := by
    rw [hgrow]
    exact indices_nodup (Nat.le_of_lt hl)
  refine ⟨_, _, if_neg hne, Nat.mod_lt _ (by omega), ?_, rfl, ?_⟩
  · intro hi
    exact (List.nodup_append.mp hnodup).2.2 _ hi _ List.mem_cons_self rfl
  · constructor
    · exact h.front_lt
    · simpa using hl
    · simp only [List.length_append, List.length_cons, List.length_nil]
      rw [h.next_rear, ← Nat.add_assoc]
      congr 1
      omega
    · simpa using hgrow

theorem Holds.dequeue_empty {n : ℕ} {r : Ring} (h : Holds n r []) :
    dequeue n r = (r, none) := by
  rw [dequeue, if_pos]
  rw [h.rear_eq, List.length_nil, Nat.add_zero, Nat.mod_eq_of_lt h.front_lt]

theorem Holds.dequeue_next {n : ℕ} {r : Ring} {i : ℕ} {is : List ℕ} (h : Holds n r (i :: is)) :
    ∃ r', dequeue n r = (r', some i) ∧ Holds n r' is := by
  have hf := h.front_lt
  have hl := h.fits
  have hr := h.rear_eq
  simp only [List.length_cons] at hl hr
  have hne : r.front ≠ r.rear := by
    intro he
    have hback : (r.front + 0) % n = (r.front + (is.length + 1)) % n := by
      rw [← hr, ← he, Nat.add_zero, Nat.mod_eq_of_lt hf]
    have hzero := add_mod_inj (by omega) hl hback
    omega
  have hs := h.slots
  rw [List.length_cons, indices_cons] at hs
  obtain ⟨hi, his⟩ := List.cons.inj hs
  refine ⟨⟨(r.front + 1) % n, r.rear⟩, by rw [dequeue, if_neg hne, hi], ?_⟩
  constructor
  · exact Nat.mod_lt _ (by omega)
  · omega
  · rw [hr, Nat.mod_add_mod]
    congr 1
    omega
  · exact his

end RingQueue
