import Mathlib.Data.Finmap
import Mathlib.Data.List.Forall2
import Mathlib.Data.List.Lookmap
import Mathlib.Data.List.Nodup
import Mathlib.Order.Lattice.Nat

/-! # Singly linked lists in a heap

Nodes live at addresses and are reached through links; `none` is the null pointer. The walks
follow the two loop shapes of C code: by `next` until null, or by a counter that trusts a stored
length. A walk answers `none` when it would dereference null or a freed address, or would not
end. -/
namespace HeapChain

abbrev Address := ℕ

abbrev Link := Option Address

structure Node (α : Type) where
  next : Link
  val : α
  deriving DecidableEq, Repr

abbrev Heap (α : Type) := Finmap fun _ : Address => Node α

/-- One answer of the allocator: it never hands out an address that is in use. -/
structure Malloc where
  addr : Finset Address → Address
  fresh : ∀ used, addr used ∉ used

def Malloc.bump : Malloc where
  addr used := used.sup id + 1
  fresh used h := by
    have hle : used.sup id + 1 ≤ used.sup id := Finset.le_sup (f := id) h
    exact absurd hle (Nat.not_succ_le_self _)

variable {α : Type}

def load (h : Heap α) (a : Address) : Option (Node α) := h.lookup a

@[simp] theorem load_insert_self (h : Heap α) (a : Address) (node : Node α) :
    load (h.insert a node) a = some node := Finmap.lookup_insert h

theorem load_insert_of_ne (h : Heap α) {a b : Address} (node : Node α) (hne : b ≠ a) :
    load (h.insert a node) b = load h b := Finmap.lookup_insert_of_ne h hne

theorem load_erase_of_ne (h : Heap α) {a b : Address} (hne : b ≠ a) :
    load (h.erase a) b = load h b := Finmap.lookup_erase_ne hne

/-- Walk by `next` until a node satisfies `p` or the link is null. -/
def find (p : α → Bool) (h : Heap α) : ℕ → Link → Option Link
  | _, none => some none
  | 0, some _ => none
  | n + 1, some a => do
    let node ← load h a
    if p node.val then some (some a) else find p h n node.next

/-- Walk `n` nodes from a link, trusting the counter: null is dereferenced if it is too big. -/
def findCounted (p : α → Bool) (h : Heap α) : ℕ → Link → Option Link
  | 0, _ => some none
  | n + 1, l => do
    let a ← l
    let node ← load h a
    if p node.val then some (some a) else findCounted p h n node.next

def copyCounted (h : Heap α) : ℕ → Link → Option (List α)
  | 0, _ => some []
  | n + 1, l => do
    let a ← l
    let node ← load h a
    let rest ← copyCounted h n node.next
    some (node.val :: rest)

def store (h : Heap α) (a : Address) (f : α → α) : Option (Heap α) := do
  let node ← load h a
  some (h.insert a ⟨node.next, f node.val⟩)

/-- From the node at `a`, look one node ahead and unlink and free the first match. -/
def unlinkNext (p : α → Bool) (h : Heap α) : ℕ → Address → Option (Option (Heap α))
  | 0, _ => none
  | n + 1, a => do
    let node ← load h a
    match node.next with
    | none => some none
    | some b =>
      let ahead ← load h b
      if p ahead.val then some (some ((h.insert a ⟨ahead.next, node.val⟩).erase b))
      else unlinkNext p h n b

def freeAll (h : Heap α) : ℕ → Link → Option (Heap α × ℕ)
  | _, none => some (h, 0)
  | 0, some _ => none
  | n + 1, some a => do
    let node ← load h a
    let (h', freed) ← freeAll (h.erase a) n node.next
    some (h', freed + 1)

/-- The nodes met from a link on, with their addresses, up to null. -/
def Chain (h : Heap α) : Link → List (Address × α) → Prop
  | l, [] => l = none
  | l, (a, v) :: xs => l = some a ∧ ∃ next, load h a = some ⟨next, v⟩ ∧ Chain h next xs

theorem Chain.functional {h : Heap α} {l : Link} {xs ys : List (Address × α)}
    (hx : Chain h l xs) (hy : Chain h l ys) : xs = ys := by
  induction xs generalizing l ys with
  | nil =>
    cases ys with
    | nil => rfl
    | cons y ys => simp only [Chain] at hx hy; simp [hx] at hy
  | cons x xs ih =>
    obtain ⟨rfl, next, hl, ht⟩ := hx
    cases ys with
    | nil => simp [Chain] at hy
    | cons y ys =>
      obtain ⟨ha, next', hl', ht'⟩ := hy
      have he : x.1 = y.1 := Option.some.inj ha
      rw [← he, hl] at hl'
      obtain ⟨rfl, hv⟩ := Node.mk.inj (Option.some.inj hl')
      rw [ih ht ht', Prod.ext he hv]

theorem Chain.suffix {h : Heap α} {l : Link} {xs ys : List (Address × α)}
    (hc : Chain h l (xs ++ ys)) : ∃ l', Chain h l' ys := by
  induction xs generalizing l with
  | nil => exact ⟨l, hc⟩
  | cons x xs ih =>
    obtain ⟨-, next, -, ht⟩ := hc
    exact ih ht

theorem Chain.nodup {h : Heap α} {l : Link} {xs : List (Address × α)} (hc : Chain h l xs) :
    (xs.map Prod.fst).Nodup := by
  induction xs generalizing l with
  | nil => exact List.nodup_nil
  | cons x xs ih =>
    have hc' := hc
    obtain ⟨rfl, next, hl, ht⟩ := hc
    refine List.nodup_cons.mpr ⟨?_, ih ht⟩
    intro hm
    obtain ⟨y, hy, hyx⟩ := List.mem_map.mp hm
    obtain ⟨pre, post, rfl⟩ := List.mem_iff_append.mp hy
    obtain ⟨l', hs⟩ := ht.suffix
    have hl' : l' = some x.1 := hs.1.trans (congrArg some hyx)
    -- the chain from `x` and the chain from its second occurrence have different lengths
    have hlen := congrArg List.length (hc'.functional (hl' ▸ hs))
    simp at hlen
    omega

theorem Chain.congr {h h' : Heap α} {l : Link} {xs : List (Address × α)} (hc : Chain h l xs)
    (he : ∀ a ∈ xs.map Prod.fst, load h' a = load h a) : Chain h' l xs := by
  induction xs generalizing l with
  | nil => exact hc
  | cons x xs ih =>
    obtain ⟨rfl, next, hl, ht⟩ := hc
    refine ⟨rfl, next, (he x.1 (by simp)).trans hl, ih ht fun a ha => he a ?_⟩
    exact List.mem_cons_of_mem _ ha

theorem Chain.store {h : Heap α} {l : Link} {xs ys : List (Address × α)} {a : Address} {v w : α}
    {next : Link} (hc : Chain h l (xs ++ (a, v) :: ys)) (hl : load h a = some ⟨next, v⟩) :
    Chain (h.insert a ⟨next, w⟩) l (xs ++ (a, w) :: ys) := by
  have hnd := hc.nodup
  induction xs generalizing l with
  | nil =>
    obtain ⟨rfl, next', hl', ht⟩ := hc
    obtain ⟨rfl, -⟩ := Node.mk.inj (Option.some.inj (hl'.symm.trans hl))
    refine ⟨rfl, next', load_insert_self _ _ _, ht.congr fun b hb => ?_⟩
    refine load_insert_of_ne _ _ ?_
    rintro rfl
    exact (List.nodup_cons.mp hnd).1 hb
  | cons x xs ih =>
    obtain ⟨rfl, next', hl', ht⟩ := hc
    have hne : x.1 ≠ a := by
      rintro rfl
      exact (List.nodup_cons.mp hnd).1 (by simp)
    exact ⟨rfl, next', (load_insert_of_ne _ _ hne).trans hl', ih ht ht.nodup⟩

/-- The heap holds exactly the nodes of the list from `l` on, with values `vs`. -/
def Owned (h : Heap α) (l : Link) (vs : List α) : Prop :=
  ∃ xs, Chain h l xs ∧ xs.map Prod.snd = vs ∧ h.keys = (xs.map Prod.fst).toFinset

theorem owned_empty : Owned (∅ : Heap α) none [] := ⟨[], rfl, rfl, rfl⟩

theorem Owned.card {h : Heap α} {l : Link} {vs : List α} (ho : Owned h l vs) :
    h.keys.card = vs.length := by
  obtain ⟨xs, hc, rfl, hk⟩ := ho
  rw [hk, List.toFinset_card_of_nodup hc.nodup, List.length_map, List.length_map]

theorem Owned.null_iff {h : Heap α} {l : Link} {vs : List α} (ho : Owned h l vs) :
    l = none ↔ vs = [] := by
  obtain ⟨xs, hc, rfl, -⟩ := ho
  cases xs with
  | nil => simpa [Chain] using hc
  | cons x xs => simp [hc.1]

private theorem find_chain (p : α → Bool) {h : Heap α} {l : Link} {xs : List (Address × α)}
    (hc : Chain h l xs) {n : ℕ} (hn : xs.length ≤ n) :
    find p h n l = some ((xs.find? fun x => p x.2).map Prod.fst) := by
  induction xs generalizing l n with
  | nil =>
    simp only [Chain] at hc
    subst hc
    simp [find]
  | cons x xs ih =>
    obtain ⟨rfl, next, hl, ht⟩ := hc
    obtain ⟨n, rfl⟩ : ∃ m, n = m + 1 := ⟨n - 1, by simp at hn; omega⟩
    simp only [find, hl, Option.bind_eq_bind, Option.bind_some, List.find?_cons]
    cases p x.2 with
    | true => simp
    | false => simpa using ih ht (by simpa using hn)

private theorem findCounted_chain (p : α → Bool) {h : Heap α} {l : Link}
    {xs : List (Address × α)} (hc : Chain h l xs) {n : ℕ} (hn : n ≤ xs.length) :
    findCounted p h n l = some (((xs.take n).find? fun x => p x.2).map Prod.fst) := by
  induction xs generalizing l n with
  | nil =>
    obtain rfl : n = 0 := by simpa using hn
    rfl
  | cons x xs ih =>
    obtain ⟨rfl, next, hl, ht⟩ := hc
    cases n with
    | zero => rfl
    | succ n =>
      simp only [List.take_succ_cons, findCounted, hl, Option.bind_eq_bind, Option.bind_some,
        List.find?_cons]
      cases p x.2 with
      | true => simp
      | false => simpa using ih ht (by simpa using hn)

/-- The counting walk looks at as many nodes as the stored length says. -/
theorem Owned.findCounted_none {h : Heap α} {l : Link} {vs : List α} (ho : Owned h l vs)
    {p : α → Bool} {n : ℕ} (hn : n ≤ vs.length) (hp : ∀ v ∈ vs.take n, p v = false) :
    findCounted p h n l = some none := by
  obtain ⟨xs, hc, rfl, -⟩ := ho
  rw [List.length_map] at hn
  rw [findCounted_chain p hc hn]
  simp only [Option.some.injEq, Option.map_eq_none_iff, List.find?_eq_none]
  intro x hx
  rw [← List.map_take] at hp
  simp [hp x.2 (List.mem_map_of_mem hx)]

/-- If one of them matches, it ends where the walk by links does. -/
theorem Owned.findCounted_eq {h : Heap α} {l : Link} {vs : List α} (ho : Owned h l vs)
    {p : α → Bool} {n : ℕ} (hn : n ≤ vs.length) (hp : ∃ v ∈ vs.take n, p v = true) :
    findCounted p h n l = find p h h.keys.card l := by
  rw [ho.card]
  obtain ⟨xs, hc, rfl, -⟩ := ho
  rw [List.length_map] at hn
  rw [List.length_map, findCounted_chain p hc hn, find_chain p hc le_rfl]
  have hsome : ((xs.take n).find? fun x => p x.2).isSome := by
    obtain ⟨v, hv, hpv⟩ := hp
    rw [← List.map_take] at hv
    obtain ⟨x, hx, rfl⟩ := List.mem_map.mp hv
    rw [List.find?_isSome]
    exact ⟨x, hx, hpv⟩
  obtain ⟨x, hx⟩ := Option.isSome_iff_exists.mp hsome
  have hall : xs.find? (fun x => p x.2) = some x := by
    rw [← List.take_append_drop n xs, List.find?_append, hx]
    rfl
  rw [hx, hall]

theorem Owned.find_none {h : Heap α} {l : Link} {vs : List α} (ho : Owned h l vs)
    {p : α → Bool} (hp : ∀ v ∈ vs, p v = false) : find p h h.keys.card l = some none := by
  rw [ho.card]
  obtain ⟨xs, hc, rfl, -⟩ := ho
  rw [List.length_map, find_chain p hc le_rfl]
  simp only [Option.some.injEq, Option.map_eq_none_iff, List.find?_eq_none]
  intro x hx
  simp [hp x.2 (List.mem_map_of_mem hx)]

theorem Owned.find_some {h : Heap α} {l : Link} {vs : List α} (ho : Owned h l vs)
    {p : α → Bool} (hp : ∃ v ∈ vs, p v = true) :
    ∃ pre a v post next, vs = pre ++ v :: post ∧ (∀ u ∈ pre, p u = false) ∧ p v = true ∧
      find p h h.keys.card l = some (some a) ∧ load h a = some ⟨next, v⟩ ∧
      ∀ w, Owned (h.insert a ⟨next, w⟩) l (pre ++ w :: post) := by
  have hcard := ho.card
  obtain ⟨xs, hc, rfl, hk⟩ := ho
  obtain ⟨v, hv, hpv⟩ := hp
  obtain ⟨y, hy, rfl⟩ := List.mem_map.mp hv
  cases hf : xs.find? (fun x => p x.2) with
  | none => simpa [hpv] using List.find?_eq_none.mp hf y hy
  | some x =>
    obtain ⟨hpx, pre, post, rfl, hpre⟩ := List.find?_eq_some_iff_append.mp hf
    obtain ⟨l', hs⟩ := hc.suffix
    obtain ⟨-, next, hl, -⟩ := hs
    refine ⟨pre.map Prod.snd, x.1, x.2, post.map Prod.snd, next, by simp, ?_, hpx, ?_, hl, ?_⟩
    · intro u hu
      obtain ⟨z, hz, rfl⟩ := List.mem_map.mp hu
      simpa using hpre z hz
    · rw [hcard, List.length_map, find_chain p hc le_rfl, hf, Option.map_some]
    · intro w
      refine ⟨pre ++ (x.1, w) :: post, hc.store hl, by simp, ?_⟩
      ext b
      rw [Finmap.mem_keys, Finmap.mem_insert, ← Finmap.mem_keys, hk]
      simp only [List.map_append, List.map_cons, List.mem_toFinset, List.mem_append,
        List.mem_cons]
      tauto

theorem Owned.push {h : Heap α} {l : Link} {vs : List α} (ho : Owned h l vs) {a : Address}
    (ha : a ∉ h.keys) (v : α) : Owned (h.insert a ⟨l, v⟩) (some a) (v :: vs) := by
  obtain ⟨xs, hc, rfl, hk⟩ := ho
  refine ⟨(a, v) :: xs, ⟨rfl, l, load_insert_self _ _ _, hc.congr fun b hb => ?_⟩, rfl, ?_⟩
  · refine load_insert_of_ne _ _ ?_
    rintro rfl
    exact ha (hk ▸ List.mem_toFinset.mpr hb)
  · ext b
    rw [Finmap.mem_keys, Finmap.mem_insert, ← Finmap.mem_keys, hk]
    simp

theorem Owned.head {h : Heap α} {a : Address} {vs : List α} (ho : Owned h (some a) vs) :
    ∃ next v rest, vs = v :: rest ∧ load h a = some ⟨next, v⟩ ∧ Owned (h.erase a) next rest := by
  obtain ⟨xs, hc, rfl, hk⟩ := ho
  have hnd := hc.nodup
  cases xs with
  | nil => simp [Chain] at hc
  | cons x xs =>
    obtain ⟨ha, next, hl, ht⟩ := hc
    obtain rfl : a = x.1 := Option.some.inj ha
    have hx := (List.nodup_cons.mp hnd).1
    refine ⟨next, x.2, xs.map Prod.snd, rfl, hl, xs, ht.congr fun b hb => ?_, rfl, ?_⟩
    · refine load_erase_of_ne _ ?_
      rintro rfl
      exact hx hb
    · rw [Finmap.keys_erase, hk, List.map_cons, List.toFinset_cons,
        Finset.erase_insert (by simpa using hx)]

theorem Owned.copyCounted_take {h : Heap α} {l : Link} {vs : List α} (ho : Owned h l vs) {n : ℕ}
    (hn : n ≤ vs.length) : HeapChain.copyCounted h n l = some (vs.take n) := by
  obtain ⟨xs, hc, rfl, -⟩ := ho
  induction n generalizing l xs with
  | zero => rfl
  | succ n ih =>
    cases xs with
    | nil => simp at hn
    | cons x xs =>
      obtain ⟨rfl, next, hl, ht⟩ := hc
      have ih := ih xs ht (by simpa using hn)
      simp [HeapChain.copyCounted, hl, ih]

theorem Owned.copyCounted {h : Heap α} {l : Link} {vs : List α} (ho : Owned h l vs) :
    HeapChain.copyCounted h vs.length l = some vs := by
  rw [ho.copyCounted_take le_rfl, List.take_length]

theorem Owned.freeAll {h : Heap α} {l : Link} {vs : List α} (ho : Owned h l vs) :
    HeapChain.freeAll h vs.length l = some (∅, vs.length) := by
  induction vs generalizing h l with
  | nil =>
    obtain rfl := ho.null_iff.mpr rfl
    have hk : h.keys = ∅ := Finset.card_eq_zero.mp ho.card
    have he : h = ∅ := by
      refine Finmap.ext_lookup fun a => ?_
      rw [Finmap.lookup_empty, Finmap.lookup_eq_none, ← Finmap.mem_keys, hk]
      exact Finset.notMem_empty a
    rw [he]
    rfl
  | cons v vs ih =>
    cases l with
    | none => simpa using ho.null_iff.mp rfl
    | some a =>
      obtain ⟨next, v', rest, hv, hl, hr⟩ := ho.head
      obtain ⟨rfl, rfl⟩ := List.cons.inj hv
      simp [HeapChain.freeAll, hl, ih hr]

private theorem unlinkNext_none (p : α → Bool) {h : Heap α} {a : Address} {v : α}
    {xs : List (Address × α)} (hc : Chain h (some a) ((a, v) :: xs))
    (hp : ∀ x ∈ xs, p x.2 = false) {n : ℕ} (hn : xs.length < n) :
    unlinkNext p h n a = some none := by
  induction xs generalizing a v n with
  | nil =>
    obtain ⟨-, next, hl, ht⟩ := hc
    obtain ⟨n, rfl⟩ : ∃ m, n = m + 1 := ⟨n - 1, by simp at hn; omega⟩
    simp only [Chain] at ht
    simp [unlinkNext, hl, ht]
  | cons x xs ih =>
    obtain ⟨-, next, hl, ht⟩ := hc
    obtain ⟨n, rfl⟩ : ∃ m, n = m + 1 := ⟨n - 1, by simp at hn; omega⟩
    have hx := ht
    obtain ⟨rfl, next', hl', -⟩ := ht
    have hstep := ih hx (fun y hy => hp y (List.mem_cons_of_mem _ hy)) (by simpa using hn)
    simp [unlinkNext, hl, hl', hp x List.mem_cons_self, hstep]

private theorem unlinkNext_some (p : α → Bool) {h : Heap α} {a : Address} {v : α}
    {pre post : List (Address × α)} {b : Address} {w : α}
    (hc : Chain h (some a) ((a, v) :: (pre ++ (b, w) :: post)))
    (hp : ∀ x ∈ pre, p x.2 = false) (hw : p w = true) {n : ℕ} (hn : pre.length < n) :
    ∃ h', unlinkNext p h n a = some (some h') ∧ Chain h' (some a) ((a, v) :: (pre ++ post)) ∧
      h'.keys = h.keys.erase b ∧
      ∀ c, c ∉ ((a, v) :: (pre ++ (b, w) :: post)).map Prod.fst → load h' c = load h c := by
  have hnd := hc.nodup
  induction pre generalizing a v n with
  | nil =>
    obtain ⟨-, next, hl, rfl, next', hl', ht⟩ := hc
    obtain ⟨n, rfl⟩ : ∃ m, n = m + 1 := ⟨n - 1, by simp at hn; omega⟩
    simp only [List.nil_append, List.map_cons, List.nodup_cons, List.mem_cons, not_or] at hnd
    obtain ⟨⟨hab, ha⟩, hb, -⟩ := hnd
    refine ⟨(h.insert a ⟨next', v⟩).erase b, by simp [unlinkNext, hl, hl', hw], ?_, ?_, ?_⟩
    · refine ⟨rfl, next', by rw [load_erase_of_ne _ hab, load_insert_self], ht.congr ?_⟩
      intro c hc
      have hcb : c ≠ b := by rintro rfl; exact hb hc
      have hca : c ≠ a := by rintro rfl; exact ha hc
      rw [load_erase_of_ne _ hcb, load_insert_of_ne _ _ hca]
    · have ha' : a ∈ h.keys := Finmap.mem_keys.mpr (Finmap.mem_of_lookup_eq_some hl)
      rw [Finmap.keys_erase]
      congr 1
      ext c
      rw [Finmap.mem_keys, Finmap.mem_insert, ← Finmap.mem_keys]
      exact or_iff_right_of_imp fun hc => hc ▸ ha'
    · intro c hc
      simp only [List.nil_append, List.map_cons, List.mem_cons, not_or] at hc
      rw [load_erase_of_ne _ hc.2.1, load_insert_of_ne _ _ hc.1]
  | cons x pre ih =>
    obtain ⟨-, next, hl, ht⟩ := hc
    obtain ⟨n, rfl⟩ : ∃ m, n = m + 1 := ⟨n - 1, by simp at hn; omega⟩
    have hx := ht
    obtain ⟨rfl, next', hl', -⟩ := ht
    have hnd' := List.nodup_cons.mp hnd
    obtain ⟨h', hu, hch, hk, hframe⟩ := ih hx
      (fun y hy => hp y (List.mem_cons_of_mem _ hy)) (by simpa using hn) hnd'.2
    refine ⟨h', ?_, ⟨rfl, _, (hframe a hnd'.1).trans hl, hch⟩, hk, ?_⟩
    · simp [unlinkNext, hl, hl', hp x List.mem_cons_self, hu]
    · intro c hc
      exact hframe c fun hm => hc (List.mem_cons_of_mem _ hm)

/-- Behind a head that stays, the unlinking loop removes the first match, if any. -/
theorem Owned.unlinkNext {h : Heap α} {a : Address} {v : α} {rest : List α}
    (ho : Owned h (some a) (v :: rest)) (p : α → Bool) :
    ((∀ u ∈ rest, p u = false) ∧ HeapChain.unlinkNext p h h.keys.card a = some none) ∨
    ((∃ u ∈ rest, p u = true) ∧ ∃ h', HeapChain.unlinkNext p h h.keys.card a = some (some h') ∧
      Owned h' (some a) (v :: rest.eraseP p)) := by
  have hcard := ho.card
  obtain ⟨xs, hc, hv, hk⟩ := ho
  cases xs with
  | nil => simp at hv
  | cons x xs =>
    obtain ⟨rfl, rfl⟩ := List.cons.inj hv
    obtain rfl : a = x.1 := Option.some.inj hc.1
    have hlen : xs.length < h.keys.card := by rw [hcard]; simp
    cases hf : xs.find? (fun x => p x.2) with
    | none =>
      have hnone : ∀ y ∈ xs, p y.2 = false := fun y hy => by
        simpa using List.find?_eq_none.mp hf y hy
      refine Or.inl ⟨?_, unlinkNext_none p hc hnone hlen⟩
      intro u hu
      obtain ⟨y, hy, rfl⟩ := List.mem_map.mp hu
      exact hnone y hy
    | some y =>
      obtain ⟨hpy, pre, post, rfl, hpre⟩ := List.find?_eq_some_iff_append.mp hf
      have hpre' : ∀ z ∈ pre, p z.2 = false := fun z hz => by simpa using hpre z hz
      obtain ⟨h', hu, hch, hk', -⟩ := unlinkNext_some p hc hpre' hpy
        (n := h.keys.card) (by simp at hlen; omega)
      refine Or.inr ⟨⟨y.2, by simp, hpy⟩, h', hu, x :: (pre ++ post), hch, ?_, ?_⟩
      · have hmap : ∀ u ∈ pre.map Prod.snd, ¬ p u = true := by
          intro u hu
          obtain ⟨z, hz, rfl⟩ := List.mem_map.mp hu
          simp [hpre' z hz]
        have hsplit : (pre ++ y :: post).map Prod.snd =
            pre.map Prod.snd ++ y.2 :: post.map Prod.snd := by simp
        rw [hsplit, List.eraseP_append_right _ hmap, List.eraseP_cons_of_pos hpy]
        simp
      · have hnd := hc.nodup
        rw [hk', hk]
        ext c
        simp only [List.map_cons, List.map_append, List.nodup_cons, List.mem_append,
          List.mem_cons, List.nodup_append, not_or] at hnd
        simp only [List.map_cons, List.map_append, Finset.mem_erase, List.mem_toFinset,
          List.mem_cons, List.mem_append]
        constructor
        · tauto
        · rintro (rfl | hm | hm)
          · exact ⟨hnd.1.2.1, Or.inl rfl⟩
          · refine ⟨?_, Or.inr (Or.inl hm)⟩
            rintro rfl
            exact hnd.2.2.2 _ hm _ (Or.inl rfl) rfl
          · refine ⟨?_, Or.inr (Or.inr (Or.inr hm))⟩
            rintro rfl
            exact hnd.2.2.1.1 hm

def updateFirst (p : α → Bool) (f : α → α) (vs : List α) : List α :=
  vs.lookmap fun v => if p v then some (f v) else none

@[simp] theorem updateFirst_nil (p : α → Bool) (f : α → α) : updateFirst p f [] = [] := rfl

theorem updateFirst_cons (p : α → Bool) (f : α → α) (v : α) (vs : List α) :
    updateFirst p f (v :: vs) = if p v then f v :: vs else v :: updateFirst p f vs := by
  cases hv : p v with
  | false => exact List.lookmap_cons_none _ _ (by simp [hv])
  | true => exact List.lookmap_cons_some _ _ (by simp [hv])

theorem updateFirst_split {p : α → Bool} {v : α} (f : α → α) {pre : List α} (post : List α)
    (hpre : ∀ u ∈ pre, p u = false) (hv : p v = true) :
    updateFirst p f (pre ++ v :: post) = pre ++ f v :: post := by
  induction pre with
  | nil => simp [updateFirst_cons, hv]
  | cons u pre ih =>
    have hu := hpre u (by simp)
    have ih := ih fun x hx => hpre x (by simp [hx])
    simp [updateFirst_cons, hu, ih]

theorem updateFirst_length (p : α → Bool) (f : α → α) (vs : List α) :
    (updateFirst p f vs).length = vs.length := List.length_lookmap _ vs

theorem updateFirst_map {β : Type} (g : α → β) (p : α → Bool) {f : α → α}
    (hg : ∀ v, p v = true → g (f v) = g v) (vs : List α) :
    (updateFirst p f vs).map g = vs.map g := by
  induction vs with
  | nil => rfl
  | cons v vs ih =>
    rw [updateFirst_cons]
    split
    · next hv => rw [List.map_cons, List.map_cons, hg v hv]
    · rw [List.map_cons, List.map_cons, ih]

theorem forall₂_updateFirst {β : Type} {R : α → β → Prop} {p : α → Bool} {q : β → Bool}
    {f : α → α} {g : β → β} (hpq : ∀ v w, R v w → p v = q w)
    (hfg : ∀ v w, R v w → R (f v) (g w)) {vs : List α} {ws : List β}
    (h : List.Forall₂ R vs ws) : List.Forall₂ R (updateFirst p f vs) (updateFirst q g ws) := by
  induction h with
  | nil => exact .nil
  | @cons v w vs ws hvw ht ih =>
    rw [updateFirst_cons, updateFirst_cons, hpq v w hvw]
    split
    · exact .cons (hfg v w hvw) ht
    · exact .cons hvw ih

theorem Owned.find_store {h : Heap α} {l : Link} {vs : List α} (ho : Owned h l vs)
    {p : α → Bool} (hp : ∃ v ∈ vs, p v = true) (f : α → α) :
    ∃ a h', find p h h.keys.card l = some (some a) ∧ HeapChain.store h a f = some h' ∧
      Owned h' l (updateFirst p f vs) := by
  obtain ⟨pre, a, v, post, next, rfl, hpre, hv, hf, hl, hs⟩ := ho.find_some hp
  refine ⟨a, h.insert a ⟨next, f v⟩, hf, ?_, ?_⟩
  · simp [HeapChain.store, hl]
  · rw [updateFirst_split f post hpre hv]
    exact hs (f v)

end HeapChain
