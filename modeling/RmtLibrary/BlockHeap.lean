import RmtLibrary.HeapChain

/-! # Allocated blocks and their owners

Blocks of memory with their contents, allocated and released one by one. Releasing, reading or
writing a block that is not live answers `none`. The live blocks are accounted for by a list of
owners in which each of them stands once: what is released can be taken from it, and nothing else
loses its contents. -/
namespace BlockHeap

open HeapChain (Address Malloc)

variable {β : Type}

abbrev Blocks (β : Type) := Finmap fun _ : Address => β

def read (a : Address) (blocks : Blocks β) : Option β := blocks.lookup a

def alloc (m : Malloc) (b : β) (blocks : Blocks β) : Address × Blocks β :=
  (m.addr blocks.keys, blocks.insert (m.addr blocks.keys) b)

def release (a : Address) (blocks : Blocks β) : Option (Blocks β) :=
  if a ∈ blocks then some (blocks.erase a) else none

def write (a : Address) (b : β) (blocks : Blocks β) : Option (Blocks β) :=
  if a ∈ blocks then some (blocks.insert a b) else none

def realloc (m : Malloc) (a : Address) (blocks : Blocks β) : Option (Address × Blocks β) := do
  let b ← read a blocks
  let blocks ← release a blocks
  some (alloc m b blocks)

def allocAll (m : Malloc) : List β → Blocks β → List Address × Blocks β
  | [], blocks => ([], blocks)
  | b :: bs, blocks =>
    let (a, blocks) := alloc m b blocks
    let (as, blocks) := allocAll m bs blocks
    (a :: as, blocks)

def releaseAll : List Address → Blocks β → Option (Blocks β)
  | [], blocks => some blocks
  | a :: as, blocks => (release a blocks).bind (releaseAll as)

/-- The live blocks are those of the owners, and no two owners share one. -/
structure Owns (blocks : Blocks β) (owners : List Address) : Prop where
  nodup : owners.Nodup
  live : ∀ a, a ∈ blocks ↔ a ∈ owners

variable {blocks blocks' : Blocks β} {owners owners' : List Address}

theorem owns_empty : Owns (∅ : Blocks β) [] :=
  ⟨List.nodup_nil, fun a => by simp [Finmap.notMem_empty]⟩

theorem Owns.perm (h : Owns blocks owners) (hp : owners.Perm owners') : Owns blocks owners' :=
  ⟨hp.nodup_iff.mp h.nodup, fun a => (h.live a).trans hp.mem_iff⟩

theorem Owns.card (h : Owns blocks owners) : blocks.keys.card = owners.length := by
  have hkeys : blocks.keys = owners.toFinset := by
    ext a
    rw [Finmap.mem_keys, h.live, List.mem_toFinset]
  rw [hkeys, List.toFinset_card_of_nodup h.nodup]

theorem alloc_fresh (m : Malloc) (b : β) (blocks : Blocks β) : (alloc m b blocks).1 ∉ blocks :=
  fun h => m.fresh _ (Finmap.mem_keys.mpr h)

theorem read_alloc (m : Malloc) (b : β) (blocks : Blocks β) :
    read (alloc m b blocks).1 (alloc m b blocks).2 = some b := Finmap.lookup_insert _

theorem read_alloc_of_mem (m : Malloc) (b : β) {a : Address} (h : a ∈ blocks) :
    read a (alloc m b blocks).2 = read a blocks := by
  apply Finmap.lookup_insert_of_ne
  rintro rfl
  exact alloc_fresh m b blocks h

theorem mem_alloc (m : Malloc) (b : β) (a : Address) :
    a ∈ (alloc m b blocks).2 ↔ a = (alloc m b blocks).1 ∨ a ∈ blocks := Finmap.mem_insert

theorem Owns.alloc (h : Owns blocks owners) (m : Malloc) (b : β) :
    Owns (BlockHeap.alloc m b blocks).2 ((BlockHeap.alloc m b blocks).1 :: owners) where
  nodup := List.nodup_cons.mpr ⟨fun hm => alloc_fresh m b blocks ((h.live _).mpr hm), h.nodup⟩
  live a := by rw [mem_alloc, List.mem_cons, h.live]

theorem read_allocAll_of_mem (m : Malloc) (bs : List β) {a : Address} (h : a ∈ blocks) :
    read a (allocAll m bs blocks).2 = read a blocks := by
  induction bs generalizing blocks with
  | nil => rfl
  | cons b bs ih =>
    rw [← read_alloc_of_mem m b h]
    exact ih ((mem_alloc m b a).mpr (.inr h))

theorem read_allocAll (m : Malloc) (bs : List β) (blocks : Blocks β) :
    (allocAll m bs blocks).1.map (read · (allocAll m bs blocks).2) = bs.map some := by
  induction bs generalizing blocks with
  | nil => rfl
  | cons b bs ih =>
    have hfirst : read (alloc m b blocks).1 (allocAll m bs (alloc m b blocks).2).2 = some b := by
      rw [read_allocAll_of_mem m bs ((mem_alloc m b _).mpr (.inl rfl)), read_alloc]
    simp only [allocAll, List.map_cons, hfirst, ih]

theorem Owns.allocAll (h : Owns blocks owners) (m : Malloc) (bs : List β) :
    Owns (BlockHeap.allocAll m bs blocks).2 ((BlockHeap.allocAll m bs blocks).1 ++ owners) := by
  induction bs generalizing blocks owners with
  | nil => exact h
  | cons b bs ih =>
    refine (ih (h.alloc m b)).perm ?_
    exact List.perm_middle

theorem Owns.release {a : Address} (h : Owns blocks (a :: owners)) :
    ∃ blocks', BlockHeap.release a blocks = some blocks' ∧ Owns blocks' owners ∧
      ∀ b ≠ a, read b blocks' = read b blocks := by
  obtain ⟨ha, hnodup⟩ := List.nodup_cons.mp h.nodup
  refine ⟨blocks.erase a, if_pos ((h.live a).mpr List.mem_cons_self), ⟨hnodup, ?_⟩, ?_⟩
  · intro b
    rw [Finmap.mem_erase, h.live, List.mem_cons]
    constructor
    · rintro ⟨hne, hb⟩
      exact hb.resolve_left hne
    · intro hb
      refine ⟨?_, .inr hb⟩
      rintro rfl
      exact ha hb
  · intro b hne
    exact Finmap.lookup_erase_ne hne

theorem Owns.releaseAll {as : List Address} (h : Owns blocks (as ++ owners)) :
    ∃ blocks', BlockHeap.releaseAll as blocks = some blocks' ∧ Owns blocks' owners ∧
      ∀ b ∉ as, read b blocks' = read b blocks := by
  induction as generalizing blocks with
  | nil => exact ⟨blocks, rfl, h, fun _ _ => rfl⟩
  | cons a as ih =>
    obtain ⟨blocks₁, hfree, h₁, hsame₁⟩ := h.release
    obtain ⟨blocks₂, hfrees, h₂, hsame₂⟩ := ih h₁
    refine ⟨blocks₂, by rw [BlockHeap.releaseAll, hfree, Option.bind_some, hfrees], h₂, ?_⟩
    intro b hb
    obtain ⟨hne, hbs⟩ : b ≠ a ∧ b ∉ as := by simpa using hb
    rw [hsame₂ b hbs, hsame₁ b hne]

theorem Owns.write {a : Address} (h : Owns blocks owners) (ha : a ∈ owners) (b : β) :
    ∃ blocks', BlockHeap.write a b blocks = some blocks' ∧ Owns blocks' owners ∧
      read a blocks' = some b ∧ ∀ c ≠ a, read c blocks' = read c blocks := by
  refine ⟨blocks.insert a b, if_pos ((h.live a).mpr ha), ⟨h.nodup, ?_⟩,
    Finmap.lookup_insert _, fun c hne => Finmap.lookup_insert_of_ne _ hne⟩
  intro c
  rw [Finmap.mem_insert, h.live]
  constructor
  · rintro (rfl | hc)
    · exact ha
    · exact hc
  · exact Or.inr

theorem Owns.realloc {a : Address} {b : β} (h : Owns blocks (a :: owners)) (m : Malloc)
    (hread : read a blocks = some b) :
    ∃ a' blocks', BlockHeap.realloc m a blocks = some (a', blocks') ∧
      Owns blocks' (a' :: owners) ∧ read a' blocks' = some b ∧
      ∀ c ∈ owners, read c blocks' = read c blocks := by
  obtain ⟨blocks₁, hfree, h₁, hsame⟩ := h.release
  refine ⟨_, _, by rw [BlockHeap.realloc, hread, hfree]; rfl, h₁.alloc m b,
    read_alloc m b blocks₁, ?_⟩
  intro c hc
  rw [read_alloc_of_mem m b ((h₁.live c).mpr hc)]
  apply hsame
  rintro rfl
  exact (List.nodup_cons.mp h.nodup).1 hc

end BlockHeap
