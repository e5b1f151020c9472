import Mathlib.Data.List.Nodup
import Mathlib.Data.List.Perm.Subperm

/-! # Pools of messages

The messages of a kind that exist at one time, wherever they are. Moving or losing some of them
gives a pool inside the old one, and what is said of a pool here holds of every pool inside. -/
namespace MessagePool

variable {α κ : Type*} {key : α → κ} {pool pool' sent : List α}

def Distinct (key : α → κ) (pool : List α) : Prop := (pool.map key).Nodup

theorem Distinct.inside (h : Distinct key pool) (hin : pool'.Subperm pool) :
    Distinct key pool' := by
  obtain ⟨l, hperm, hsub⟩ := hin
  have hl : (l.map key).Nodup := h.sublist (hsub.map key)
  exact (hperm.map key).nodup_iff.mp hl

theorem Distinct.join (h : Distinct key pool) (hsent : Distinct key sent)
    (hnew : ∀ a ∈ sent, ∀ b ∈ pool, key a ≠ key b) : Distinct key (sent ++ pool) := by
  rw [Distinct, List.map_append, List.nodup_append]
  refine ⟨hsent, h, ?_⟩
  intro k hk k' hk'
  obtain ⟨a, ha, rfl⟩ := List.mem_map.mp hk
  obtain ⟨b, hb, rfl⟩ := List.mem_map.mp hk'
  exact hnew a ha b hb

theorem inside_of_eraseIdx (pool : List α) (k : ℕ) : (pool.eraseIdx k).Subperm pool :=
  (List.eraseIdx_sublist pool k).subperm

theorem moved_perm {k : ℕ} {a : α} (h : pool[k]? = some a) :
    (a :: pool.eraseIdx k).Perm pool := by
  obtain ⟨hk, rfl⟩ := List.getElem?_eq_some_iff.mp h
  exact List.getElem_cons_eraseIdx_perm hk

end MessagePool
