import Mathlib.Algebra.Group.Int.Defs
import Mathlib.Algebra.Group.Nat.Defs
import Mathlib.Data.List.Basic
import Mathlib.Data.List.TakeWhile

/-! # C strings and in-place tokenizing

A text is the characters of a C string without its terminator. A memory is one allocated block
of characters and a pointer is an offset into it. An access outside the block answers `none`.
`strtok` and `strtok_r` follow the C library: leading delimiters are skipped, the delimiter
behind the token is overwritten by the terminator, and the saved pointer moves behind it.
Every delimiter string met here has one character. -/
namespace CString

abbrev Text := List Char
abbrev Memory := List Char

def nul : Char := Char.ofNat 0

def ofText (t : Text) : Memory := t ++ [nul]

/-- The text a pointer points to, if a terminator follows inside the block. -/
def cstr (m : Memory) (p : ℕ) : Option Text :=
  if nul ∈ m.drop p then some ((m.drop p).takeWhile (· != nul)) else none

def skipWhile (f : Char → Bool) (m : Memory) (p : ℕ) : Option ℕ :=
  if (m.drop p).all f then none else some (p + ((m.drop p).takeWhile f).length)

/-- One call of `strtok_r(s, d, &save)`: the block after it, the token and the saved pointer.
`strtok` is the same call on a saved pointer of its own. -/
def strtokR (d : Char) (m : Memory) (s : ℕ) : Option (Memory × Option ℕ × ℕ) := do
  let s ← skipWhile (· == d) m s
  let c ← m[s]?
  if c = nul then
    some (m, none, s)
  else
    let e ← skipWhile (fun c => c != d && c != nul) m s
    let c ← m[e]?
    if c = nul then some (m, some s, e) else some (m.set e nul, some s, e + 1)

/-- `for (p = strtok_r(s, d, &save); p != NULL; p = strtok_r(NULL, d, &save)) body(p)`. -/
def tokenLoop {β : Type} (d : Char) (body : Memory → ℕ → β → Option (Memory × β)) :
    ℕ → Memory → ℕ → β → Option (Memory × β)
  | 0, _, _, _ => none
  | fuel + 1, m, s, b => do
    let (m, p, s) ← strtokR d m s
    match p with
    | none => some (m, b)
    | some p =>
      let (m, b) ← body m p b
      tokenLoop d body fuel m s b

/-- The pointer after the first of `k + 1` calls of `strtok`, the later ones on the saved
pointer. -/
def strtokNth (d : Char) : ℕ → Memory → ℕ → Option (Memory × Option ℕ × ℕ)
  | 0, m, s => strtokR d m s
  | k + 1, m, s => do
    let (m, _, s) ← strtokR d m s
    strtokNth d k m s

def strncpy (dst : Memory) (src : Text) (n : ℕ) : Memory :=
  src.take n ++ List.replicate (n - src.length) nul ++ dst.drop n

/-- A text and its terminator written over the front of a block. What follows stays. -/
def writeText (dst : Memory) (t : Text) : Memory := t ++ nul :: dst.drop (t.length + 1)

def strcpy (dst : Memory) (t : Text) : Option Memory :=
  if t.length < dst.length then some (writeText dst t) else none

/-- `snprintf(dst, n, ..)` that prints `t` into a block of `n > 0` characters. -/
def snprintf (dst : Memory) (t : Text) : Memory := writeText dst (t.take (dst.length - 1))

def formatInt : ℤ → Text
  | .ofNat n => Nat.toDigits 10 n
  | .negSucc n => '-' :: Nat.toDigits 10 (n + 1)

def isSpace (c : Char) : Bool := c == ' ' || (9 ≤ c.toNat && c.toNat ≤ 13)

/-- The number a text spells: blanks, an optional sign, then digits up to the first other
character. -/
def decimal (t : Text) : ℤ :=
  match t.dropWhile isSpace with
  | '-' :: ds => -(Nat.ofDigitChars 10 (ds.takeWhile Char.isDigit) 0 : ℤ)
  | '+' :: ds => Nat.ofDigitChars 10 (ds.takeWhile Char.isDigit) 0
  | ds => Nat.ofDigitChars 10 (ds.takeWhile Char.isDigit) 0

/-- `atoi`, as `strtol` saturates and the conversion to `int` wraps. -/
def atoi (t : Text) : BitVec 32 := BitVec.ofInt 32 (max (-2 ^ 63) (min (decimal t) (2 ^ 63 - 1)))

def strstr : Text → Text → Option ℕ
  | [], s => if s.isPrefixOf [] then some 0 else none
  | c :: t, s => if s.isPrefixOf (c :: t) then some 0 else (strstr t s).map (· + 1)

theorem strstr_isSome (t s : Text) : (strstr t s).isSome = true ↔ s <:+: t := by
  induction t with
  | nil =>
    rw [strstr, List.infix_nil]
    cases s <;> simp
  | cons c t ih =>
    rw [strstr, List.infix_cons_iff, ← ih, ← List.isPrefixOf_iff_prefix]
    split
    · next hp => simp [hp]
    · next hp => simp [hp]

/-- The first token of a text, and the text behind the delimiter that ended it, if one did. -/
def nextToken (d : Char) (t : Text) : Option (Text × Option Text) :=
  match t.dropWhile (· == d) with
  | [] => none
  | c :: cs =>
    some ((c :: cs).takeWhile (· != d), match (c :: cs).dropWhile (· != d) with
      | [] => none
      | _ :: rest => some rest)

/-- The token reached by `k` further calls, counted from zero. -/
def nthToken (d : Char) : ℕ → Text → Option (Text × Option Text)
  | 0, t => nextToken d t
  | k + 1, t =>
    match nextToken d t with
    | some (_, some rest) => nthToken d k rest
    | _ => none

def pieces (d : Char) (t : Text) : List Text := (t.splitOn d).filter (!·.isEmpty)

/-- How one call sees a text: delimiters only, or delimiters, a token and what follows. -/
theorem nextToken_cases (d : Char) (t : Text) :
    ((∀ c ∈ t, c = d) ∧ nextToken d t = none) ∨
    ∃ ds tok, (∀ c ∈ ds, c = d) ∧ tok ≠ [] ∧ d ∉ tok ∧
      ((t = ds ++ tok ∧ nextToken d t = some (tok, none)) ∨
        ∃ rest, t = ds ++ tok ++ d :: rest ∧ nextToken d t = some (tok, some rest)) := by
  have hds : ∀ c ∈ t.takeWhile (· == d), c = d := fun c hc => by
    simpa using List.mem_takeWhile_imp hc
  have hsplit := List.takeWhile_append_dropWhile (p := (· == d)) (l := t)
  cases hs : t.dropWhile (· == d) with
  | nil =>
    left
    rw [hs, List.append_nil] at hsplit
    exact ⟨fun c hc => hds c (by rw [hsplit]; exact hc), by simp [nextToken, hs]⟩
  | cons c cs =>
    right
    have hcd : c ≠ d := by
      have := List.head_dropWhile_not (· == d) (l := t) (by rw [hs]; simp)
      simpa [hs] using this
    have hstop := List.takeWhile_append_dropWhile (p := (· != d)) (l := c :: cs)
    have htok : d ∉ (c :: cs).takeWhile (· != d) := fun hm => by
      simpa using List.mem_takeWhile_imp hm
    refine ⟨_, (c :: cs).takeWhile (· != d), hds, by simp [hcd], htok, ?_⟩
    cases hr : (c :: cs).dropWhile (· != d) with
    | nil =>
      left
      rw [hr, List.append_nil] at hstop
      exact ⟨by rw [hstop, ← hs, hsplit], by simp only [nextToken, hs, hr]⟩
    | cons e rest =>
      right
      have hed : e = d := by
        have := List.head_dropWhile_not (· != d) (l := c :: cs) (by rw [hr]; simp)
        simpa [hr] using this
      subst hed
      exact ⟨rest, by rw [List.append_assoc, ← hr, hstop, ← hs, hsplit],
        by simp only [nextToken, hs, hr]⟩

theorem nextToken_token {d : Char} {t tok : Text} {rest : Option Text}
    (h : nextToken d t = some (tok, rest)) : tok ≠ [] ∧ d ∉ tok := by
  rcases nextToken_cases d t with
    ⟨-, hnone⟩ | ⟨ds, tok', -, hne, hd, ⟨-, htok⟩ | ⟨rest', -, htok⟩⟩
  · rw [hnone] at h
    cases h
  · rw [htok] at h
    obtain ⟨rfl, -⟩ := Prod.mk.inj (Option.some.inj h)
    exact ⟨hne, hd⟩
  · rw [htok] at h
    obtain ⟨rfl, -⟩ := Prod.mk.inj (Option.some.inj h)
    exact ⟨hne, hd⟩

theorem nextToken_rest_length {d : Char} {t tok rest : Text}
    (h : nextToken d t = some (tok, some rest)) : rest.length + tok.length < t.length := by
  rcases nextToken_cases d t with ⟨-, hn⟩ | ⟨ds, tok', -, -, -, ⟨-, hn⟩ | ⟨r, rfl, hn⟩⟩
  · simp [hn] at h
  · simp [hn] at h
  · rw [hn] at h
    simp only [Option.some.injEq, Prod.mk.injEq] at h
    obtain ⟨rfl, rfl⟩ := h
    simp
    omega

theorem bne_of_not_mem {d : Char} {t : Text} (h : d ∉ t) : ∀ c ∈ t, (c != d) = true := by
  intro c hc
  simp only [bne_iff_ne]
  rintro rfl
  exact h hc

theorem takeWhile_without {d : Char} {t : Text} (h : d ∉ t) : t.takeWhile (· != d) = t :=
  List.takeWhile_eq_self_iff.mpr (bne_of_not_mem h)

theorem takeWhile_before {d : Char} {t : Text} (h : d ∉ t) (rest : Text) :
    (t ++ d :: rest).takeWhile (· != d) = t := by
  rw [List.takeWhile_append_of_pos (bne_of_not_mem h), List.takeWhile_cons_of_neg (by simp),
    List.append_nil]

theorem dropWhile_before {d : Char} {t : Text} (h : d ∉ t) (rest : Text) :
    (t ++ d :: rest).dropWhile (· != d) = d :: rest := by
  rw [List.dropWhile_append_of_pos (bne_of_not_mem h), List.dropWhile_cons_of_neg (by simp)]

theorem nextToken_cons {d : Char} {tok : Text} (hne : tok ≠ []) (hd : d ∉ tok) (rest : Text) :
    nextToken d (tok ++ d :: rest) = some (tok, some rest) := by
  obtain ⟨c, cs, rfl⟩ := List.exists_cons_of_ne_nil hne
  have hc : c ≠ d := by rintro rfl; simp at hd
  have hdrop : (c :: cs ++ d :: rest).dropWhile (· == d) = c :: (cs ++ d :: rest) := by
    simp [hc]
  have htake : (c :: (cs ++ d :: rest)).takeWhile (· != d) = c :: cs := takeWhile_before hd rest
  have hrest : (c :: (cs ++ d :: rest)).dropWhile (· != d) = d :: rest := dropWhile_before hd rest
  simp only [nextToken, hdrop, htake, hrest]

theorem nextToken_single {d : Char} {tok : Text} (hne : tok ≠ []) (hd : d ∉ tok) :
    nextToken d tok = some (tok, none) := by
  rcases nextToken_cases d tok with ⟨ha, -⟩ | ⟨ds, tok', hds, -, hd', ⟨he, hn⟩ | ⟨r, he, -⟩⟩
  · obtain ⟨c, cs, rfl⟩ := List.exists_cons_of_ne_nil hne
    exact absurd (ha c (by simp) ▸ List.mem_cons_self) hd
  · cases ds with
    | nil => rw [hn, he, List.nil_append]
    | cons c ds =>
      refine absurd ?_ hd
      rw [he, ← hds c (by simp)]
      simp
  · refine absurd ?_ hd
    rw [he]
    simp

theorem nextToken_delims {d : Char} {ds : Text} (hds : ∀ c ∈ ds, c = d) (t : Text) :
    nextToken d (ds ++ t) = nextToken d t := by
  have hdrop : (ds ++ t).dropWhile (· == d) = t.dropWhile (· == d) :=
    List.dropWhile_append_of_pos (by simpa using hds)
  simp only [nextToken, hdrop]

@[simp] theorem nextToken_nil (d : Char) : nextToken d [] = none := rfl

private theorem pieces_delims {d : Char} {ds : Text} (hds : ∀ c ∈ ds, c = d) (t : Text) :
    pieces d (ds ++ t) = pieces d t := by
  induction ds with
  | nil => rfl
  | cons c ds ih =>
    obtain rfl : c = d := hds c (by simp)
    rw [List.cons_append, ← ih fun x hx => hds x (by simp [hx])]
    simp [pieces, List.splitOn_cons_eq_if_modifyHead]

theorem pieces_of_nextToken (d : Char) (t : Text) :
    pieces d t = match nextToken d t with
      | none => []
      | some (tok, rest) => tok :: (rest.elim [] (pieces d)) := by
  rcases nextToken_cases d t with ⟨ha, hn⟩ | ⟨ds, tok, hds, hne, hd, ⟨rfl, hn⟩ | ⟨r, rfl, hn⟩⟩
  · rw [hn, ← List.append_nil t, pieces_delims ha]
    rfl
  · simp only [hn, pieces_delims hds, Option.elim]
    simp [pieces, List.splitOn_eq_singleton hd, hne]
  · simp only [hn, Option.elim]
    rw [List.append_assoc, pieces_delims hds]
    simp [pieces, List.splitOn_append_cons_self_of_not_mem hd, hne]

theorem nthToken_congr {d : Char} {s t : Text} (h : nextToken d s = nextToken d t) (k : ℕ) :
    nthToken d k s = nthToken d k t := by
  cases k <;> simp only [nthToken, h]

theorem pieces_getElem? (d : Char) (k : ℕ) (t : Text) :
    (pieces d t)[k]? = (nthToken d k t).map Prod.fst := by
  induction k generalizing t with
  | zero =>
    rw [pieces_of_nextToken, nthToken]
    cases nextToken d t <;> rfl
  | succ k ih =>
    rw [pieces_of_nextToken, nthToken]
    cases hnext : nextToken d t with
    | none => rfl
    | some r =>
      obtain ⟨tok, rest⟩ := r
      cases rest with
      | none => rfl
      | some rest => exact ih rest

theorem nthToken_skip (d : Char) (k : ℕ) (s t : Text) :
    nthToken d ((pieces d s).length + k) (s ++ d :: t) = nthToken d k t := by
  obtain ⟨n, hn⟩ : ∃ n, s.length < n := ⟨s.length + 1, by omega⟩
  induction n generalizing s with
  | zero => omega
  | succ n ih =>
    rw [pieces_of_nextToken]
    rcases nextToken_cases d s with
      ⟨hds, hnone⟩ | ⟨ds, tok, hds, hne, hd, ⟨rfl, hlast⟩ | ⟨rest, rfl, hmore⟩⟩
    · have hone : nextToken d ([d] ++ t) = nextToken d t := nextToken_delims (by simp) t
      have hskip : nextToken d (s ++ d :: t) = nextToken d t := by
        rw [nextToken_delims hds]
        exact hone
      simp only [hnone, List.length_nil, Nat.zero_add]
      exact nthToken_congr hskip k
    · have htok : nextToken d (ds ++ tok ++ d :: t) = some (tok, some t) := by
        rw [List.append_assoc, nextToken_delims hds, nextToken_cons hne hd]
      simp only [hlast, Option.elim, List.length_cons, List.length_nil, Nat.zero_add,
        Nat.add_comm 1 k, nthToken, htok]
    · have htok : nextToken d (ds ++ tok ++ d :: rest ++ d :: t) =
          some (tok, some (rest ++ d :: t)) := by
        rw [List.append_assoc, List.append_assoc, nextToken_delims hds, List.cons_append,
          nextToken_cons hne hd]
      have hshort := ih rest (by simp at hn; omega)
      simp only [hmore, Option.elim, List.length_cons, Nat.add_right_comm _ 1 k, nthToken, htok]
      exact hshort

theorem mem_pieces {d : Char} {t tok : Text} (h : tok ∈ pieces d t) : tok ≠ [] ∧ d ∉ tok := by
  obtain ⟨n, hn⟩ : ∃ n, t.length < n := ⟨t.length + 1, by omega⟩
  induction n generalizing t with
  | zero => omega
  | succ n ih =>
    rw [pieces_of_nextToken] at h
    rcases nextToken_cases d t with
      ⟨-, hnone⟩ | ⟨ds, tok', -, hne, hd, ⟨-, hlast⟩ | ⟨rest, -, hmore⟩⟩
    · simp [hnone] at h
    · obtain rfl : tok = tok' := by simpa [hlast] using h
      exact ⟨hne, hd⟩
    · have hshort := nextToken_rest_length hmore
      simp only [hmore, Option.elim, List.mem_cons] at h
      rcases h with rfl | h
      · exact ⟨hne, hd⟩
      · exact ih h (by omega)

theorem pieces_append_delim (d : Char) (s t : Text) :
    pieces d (s ++ d :: t) = pieces d s ++ pieces d t := by
  simp [pieces, List.splitOn_append_cons_self]

theorem pieces_single {d : Char} {t : Text} (hd : d ∉ t) :
    pieces d t = if t = [] then [] else [t] := by
  rw [pieces, List.splitOn_eq_singleton hd]
  split <;> simp_all

theorem getElem?_after (pre : Memory) (c : Char) (post : Memory) :
    (pre ++ c :: post)[pre.length]? = some c := by simp

theorem set_after (pre : Memory) (c d : Char) (post : Memory) :
    (pre ++ c :: post).set pre.length d = pre ++ d :: post := by
  rw [List.set_append_right _ _ le_rfl]
  simp

theorem cstr_after {t : Text} (ht : nul ∉ t) (pre post : Memory) :
    cstr (pre ++ (t ++ nul :: post)) pre.length = some t := by
  rw [cstr, List.drop_left, if_pos (by simp), takeWhile_before ht]

theorem skipWhile_after {f : Char → Bool} {xs : Text} {c : Char} (hx : ∀ x ∈ xs, f x = true)
    (hc : f c = false) (pre post : Memory) :
    skipWhile f (pre ++ (xs ++ c :: post)) pre.length = some (pre.length + xs.length) := by
  rw [skipWhile, List.drop_left, if_neg (by simp [hc]), List.takeWhile_append_of_pos hx]
  simp [hc]

private theorem skip_delims {d : Char} {ds : Text} {c : Char} (hds : ∀ x ∈ ds, x = d)
    (hc : c ≠ d) (pre post : Memory) :
    skipWhile (· == d) (pre ++ (ds ++ c :: post)) pre.length = some (pre ++ ds).length := by
  rw [skipWhile_after (by simpa using hds) (by simpa using hc), List.length_append]

theorem strtokR_none {d : Char} (hd : d ≠ nul) {ds : Text} (hds : ∀ c ∈ ds, c = d)
    (pre post : Memory) :
    strtokR d (pre ++ (ds ++ nul :: post)) pre.length =
      some (pre ++ (ds ++ nul :: post), none, pre.length + ds.length) := by
  simp only [strtokR, skip_delims hds (Ne.symm hd), Option.bind_eq_bind, Option.bind_some]
  rw [← List.append_assoc, getElem?_after]
  simp

private theorem skip_token {d : Char} {tok : Text} {c : Char} (hd : d ∉ tok) (hn : nul ∉ tok)
    (hc : c = d ∨ c = nul) (pre post : Memory) :
    skipWhile (fun c => c != d && c != nul) (pre ++ (tok ++ c :: post)) pre.length =
      some (pre ++ tok).length := by
  rw [skipWhile_after, List.length_append]
  · intro x hx
    simp only [Bool.and_eq_true, bne_iff_ne]
    constructor <;> rintro rfl
    · exact hd hx
    · exact hn hx
  · rcases hc with rfl | rfl <;> simp

theorem strtokR_more {d : Char} (hdn : d ≠ nul) {ds tok : Text} (hds : ∀ c ∈ ds, c = d)
    (hne : tok ≠ []) (hd : d ∉ tok) (hn : nul ∉ tok) (pre rest : Memory) :
    strtokR d (pre ++ (ds ++ (tok ++ d :: rest))) pre.length =
      some (pre ++ (ds ++ (tok ++ nul :: rest)), some (pre.length + ds.length),
        pre.length + ds.length + tok.length + 1) := by
  obtain ⟨c, cs, rfl⟩ := List.exists_cons_of_ne_nil hne
  have hcd : c ≠ d := by rintro rfl; simp at hd
  have hcn : c ≠ nul := by rintro rfl; simp at hn
  have hstart := skip_delims hds hcd pre (cs ++ d :: rest)
  have hend := skip_token hd hn (Or.inl rfl) (pre ++ ds) rest
  have hchar := getElem?_after (pre ++ ds) c (cs ++ d :: rest)
  have hdelim := getElem?_after (pre ++ ds ++ (c :: cs)) d rest
  have hset := set_after (pre ++ ds ++ (c :: cs)) d nul rest
  simp only [List.append_assoc, List.cons_append] at hstart hend hchar hdelim hset ⊢
  simp only [strtokR, hstart, hchar, hend, hdelim, hset, Option.bind_eq_bind, Option.bind_some,
    if_neg hcn, if_neg hdn]
  simp [Nat.add_assoc]

theorem strtokR_last {d : Char} {ds tok : Text} (hds : ∀ c ∈ ds, c = d)
    (hne : tok ≠ []) (hd : d ∉ tok) (hn : nul ∉ tok) (pre post : Memory) :
    strtokR d (pre ++ (ds ++ (tok ++ nul :: post))) pre.length =
      some (pre ++ (ds ++ (tok ++ nul :: post)), some (pre.length + ds.length),
        pre.length + ds.length + tok.length) := by
  obtain ⟨c, cs, rfl⟩ := List.exists_cons_of_ne_nil hne
  have hcd : c ≠ d := by rintro rfl; simp at hd
  have hcn : c ≠ nul := by rintro rfl; simp at hn
  have hstart := skip_delims hds hcd pre (cs ++ nul :: post)
  have hend := skip_token hd hn (Or.inr rfl) (pre ++ ds) post
  have hchar := getElem?_after (pre ++ ds) c (cs ++ nul :: post)
  have hnul := getElem?_after (pre ++ ds ++ (c :: cs)) nul post
  simp only [List.append_assoc, List.cons_append] at hstart hend hchar hnul ⊢
  simp only [strtokR, hstart, hchar, hend, hnul, Option.bind_eq_bind, Option.bind_some,
    if_neg hcn, if_true]
  simp [Nat.add_assoc]

/-- A call does not touch what lies in front of its pointer. -/
theorem strtokR_prefix {d : Char} (hdn : d ≠ nul) {t : Text} (hn : nul ∉ t) (pre post : Memory) :
    ∃ post' p s, strtokR d (pre ++ (t ++ nul :: post)) pre.length = some (pre ++ post', p, s) := by
  rcases nextToken_cases d t with
    ⟨hds, -⟩ | ⟨ds, tok, hds, hne, hd, ⟨rfl, -⟩ | ⟨rest, rfl, -⟩⟩
  · exact ⟨_, _, _, strtokR_none hdn hds pre post⟩
  · have hnt : nul ∉ tok := fun hm => hn (by simp [hm])
    have htok := strtokR_last hds hne hd hnt pre post
    rw [← List.append_assoc ds] at htok
    exact ⟨_, _, _, htok⟩
  · have hnt : nul ∉ tok := fun hm => hn (by simp [hm])
    have htok := strtokR_more hdn hds hne hd hnt pre (rest ++ nul :: post)
    simp only [List.append_assoc, List.cons_append] at htok ⊢
    exact ⟨_, _, _, htok⟩

/-- Behind the last token every further call answers `NULL`. -/
theorem strtokNth_end {d : Char} (hdn : d ≠ nul) (k : ℕ) (pre post : Memory) :
    strtokNth d k (pre ++ nul :: post) pre.length =
      some (pre ++ nul :: post, none, pre.length) := by
  have hcall : strtokR d (pre ++ nul :: post) pre.length =
      some (pre ++ nul :: post, none, pre.length) :=
    strtokR_none hdn (List.forall_mem_nil _) pre post
  induction k with
  | zero => exact hcall
  | succ k ih => simp only [strtokNth, hcall, Option.bind_eq_bind, Option.bind_some, ih]

theorem strtokNth_eq {d : Char} (hdn : d ≠ nul) (k : ℕ) {t : Text} (hn : nul ∉ t)
    (pre post : Memory) :
    match nthToken d k t with
    | none => ∃ m s, strtokNth d k (pre ++ (t ++ nul :: post)) pre.length = some (m, none, s)
    | some (tok, rest) => nul ∉ tok ∧ (∀ r ∈ rest, nul ∉ r) ∧ ∃ pre' s,
        strtokNth d k (pre ++ (t ++ nul :: post)) pre.length =
          some (pre' ++ (tok ++ nul :: rest.elim post (· ++ nul :: post)), some pre'.length,
            s) := by
  induction k generalizing t pre with
  | zero =>
    rcases nextToken_cases d t with
      ⟨hds, hnone⟩ | ⟨ds, tok, hds, hne, hd, ⟨rfl, hlast⟩ | ⟨rest, rfl, hmore⟩⟩
    · simp only [nthToken, hnone, strtokNth]
      exact ⟨_, _, strtokR_none hdn hds pre post⟩
    · have hnt : nul ∉ tok := fun hm => hn (by simp [hm])
      simp only [nthToken, hlast, strtokNth]
      have htok := strtokR_last hds hne hd hnt pre post
      exact ⟨hnt, by simp, pre ++ ds, pre.length + ds.length + tok.length, by simpa using htok⟩
    · have hnt : nul ∉ tok := fun hm => hn (by simp [hm])
      have hnr : nul ∉ rest := fun hm => hn (by simp [hm])
      simp only [nthToken, hmore, strtokNth]
      have htok := strtokR_more hdn hds hne hd hnt pre (rest ++ nul :: post)
      exact ⟨hnt, by simpa using hnr, pre ++ ds, pre.length + ds.length + tok.length + 1,
        by simpa using htok⟩
  | succ k ih =>
    rcases nextToken_cases d t with
      ⟨hds, hnone⟩ | ⟨ds, tok, hds, hne, hd, ⟨rfl, hlast⟩ | ⟨rest, rfl, hmore⟩⟩
    · have htok := strtokR_none hdn hds pre post
      have hend := strtokNth_end hdn k (pre ++ t) post
      simp only [List.append_assoc, List.length_append] at htok hend
      simp only [nthToken, hnone, strtokNth, htok, Option.bind_eq_bind, Option.bind_some]
      exact ⟨_, _, hend⟩
    · have hnt : nul ∉ tok := fun hm => hn (by simp [hm])
      have htok := strtokR_last hds hne hd hnt pre post
      have hend := strtokNth_end hdn k (pre ++ ds ++ tok) post
      simp only [List.append_assoc, List.length_append, ← Nat.add_assoc] at htok hend ⊢
      simp only [nthToken, hlast, strtokNth, htok, Option.bind_eq_bind, Option.bind_some]
      exact ⟨_, _, hend⟩
    · have hnt : nul ∉ tok := fun hm => hn (by simp [hm])
      have hnr : nul ∉ rest := fun hm => hn (by simp [hm])
      have htok := strtokR_more hdn hds hne hd hnt pre (rest ++ nul :: post)
      have hrest := ih hnr (pre ++ ds ++ tok ++ [nul])
      have hnth : nthToken d (k + 1) (ds ++ tok ++ d :: rest) = nthToken d k rest := by
        rw [nthToken, hmore]
      rw [hnth]
      simp only [List.append_assoc, List.length_append, List.cons_append, List.nil_append,
        List.length_cons, List.length_nil, Nat.zero_add, ← Nat.add_assoc] at htok hrest ⊢
      simp only [strtokNth, htok, Option.bind_eq_bind, Option.bind_some]
      exact hrest

theorem cstr_writeText {t : Text} (ht : nul ∉ t) (dst : Memory) :
    cstr (writeText dst t) 0 = some t := cstr_after ht [] _

theorem length_writeText {t : Text} {dst : Memory} (h : t.length < dst.length) :
    (writeText dst t).length = dst.length := by
  simp [writeText]
  omega

theorem snprintf_eq {t : Text} {dst : Memory} (h : t.length < dst.length) :
    snprintf dst t = writeText dst t := by
  rw [snprintf, List.take_of_length_le (by omega)]

theorem cstr_isSome {m : Memory} (h : nul ∈ m) : ∃ t, cstr m 0 = some t := by
  rw [cstr, List.drop_zero, if_pos h]
  exact ⟨_, rfl⟩

theorem cstr_split {m : Memory} {t : Text} (h : cstr m 0 = some t) :
    ∃ post, m = t ++ nul :: post := by
  rw [cstr, List.drop_zero] at h
  split at h
  · next hm =>
    obtain rfl := Option.some.inj h
    have hsplit := List.takeWhile_append_dropWhile (p := (· != nul)) (l := m)
    cases hd : m.dropWhile (· != nul) with
    | nil =>
      have hall := List.dropWhile_eq_nil_iff.mp hd nul hm
      simp at hall
    | cons c post =>
      have hc : c = nul := by
        have hstop := List.head_dropWhile_not (· != nul) (l := m) (by rw [hd]; simp)
        simpa [hd] using hstop
      rw [hd, hc] at hsplit
      exact ⟨post, hsplit.symm⟩
  · cases h

/-- Rewriting a block in place changes it exactly if the text changes: what stays behind the
terminator is the same before and after. -/
theorem writeText_eq_self_iff {t : Text} (ht : nul ∉ t) (dst : Memory) :
    writeText dst t = dst ↔ cstr dst 0 = some t := by
  constructor
  · intro h
    rw [← h]
    exact cstr_writeText ht dst
  · intro h
    obtain ⟨post, rfl⟩ := cstr_split h
    have hdrop : (t ++ nul :: post).drop (t.length + 1) = post := by
      rw [← List.singleton_append, ← List.append_assoc, List.drop_left' (by simp)]
    rw [writeText, hdrop]

theorem cstr_strncpy {src : Text} {dst : Memory} {n : ℕ} (hs : nul ∉ src) (hn : src.length < n) :
    cstr (strncpy dst src n) 0 = some src := by
  obtain ⟨k, hk⟩ : ∃ k, n - src.length = k + 1 := ⟨n - src.length - 1, by omega⟩
  have h := cstr_after hs [] (List.replicate k nul ++ dst.drop n)
  simpa [strncpy, List.take_of_length_le (Nat.le_of_lt hn), hk, List.replicate_succ] using h

theorem cstr_nul_free {m : Memory} {p : ℕ} {t : Text} (h : cstr m p = some t) : nul ∉ t := by
  rw [cstr] at h
  split at h
  · obtain rfl := Option.some.inj h
    intro hn
    simpa using List.mem_takeWhile_imp hn
  · cases h

theorem tokenLoop_invariant {β : Type} {d : Char}
    {body : Memory → ℕ → β → Option (Memory × β)} (P : β → Prop)
    (hbody : ∀ m p b m' b', P b → body m p b = some (m', b') → P b') (fuel : ℕ)
    {m m' : Memory} {s : ℕ} {b b' : β} (hb : P b)
    (h : tokenLoop d body fuel m s b = some (m', b')) : P b' := by
  induction fuel generalizing m s b with
  | zero => cases h
  | succ fuel ih =>
    simp only [tokenLoop, Option.bind_eq_bind, Option.bind_eq_some_iff] at h
    obtain ⟨⟨m₁, p, s₁⟩, -, h⟩ := h
    cases p with
    | none =>
      obtain ⟨-, rfl⟩ := Prod.mk.inj (Option.some.inj h)
      exact hb
    | some p =>
      obtain ⟨⟨m₂, b₁⟩, hrun, h⟩ := Option.bind_eq_some_iff.mp h
      exact ih (hbody _ _ _ _ _ hb hrun) h

/-- Where each run of one body has a run of the other with the same tokens, so have the loops. -/
theorem tokenLoop_simulates {β γ : Type} {d : Char}
    {body : Memory → ℕ → β → Option (Memory × β)} {body' : Memory → ℕ → γ → Option (Memory × γ)}
    (R : β → γ → Prop) (hbody : ∀ m p b c m' c', R b c → body' m p c = some (m', c') →
      ∃ b', body m p b = some (m', b') ∧ R b' c') (fuel : ℕ)
    {m m' : Memory} {s : ℕ} {b : β} {c c' : γ} (hR : R b c)
    (h : tokenLoop d body' fuel m s c = some (m', c')) :
    ∃ b', tokenLoop d body fuel m s b = some (m', b') ∧ R b' c' := by
  induction fuel generalizing m s b c with
  | zero => cases h
  | succ fuel ih =>
    simp only [tokenLoop, Option.bind_eq_bind, Option.bind_eq_some_iff] at h ⊢
    obtain ⟨⟨m₁, p, s₁⟩, htok, h⟩ := h
    cases p with
    | none =>
      obtain ⟨rfl, rfl⟩ := Prod.mk.inj (Option.some.inj h)
      exact ⟨b, ⟨_, htok, rfl⟩, hR⟩
    | some p =>
      obtain ⟨⟨m₂, c₁⟩, hrun, h⟩ := Option.bind_eq_some_iff.mp h
      obtain ⟨b₁, hrun', hR₁⟩ := hbody _ _ _ _ _ _ hR hrun
      obtain ⟨b', hloop, hR'⟩ := ih hR₁ h
      exact ⟨b', ⟨_, htok, Option.bind_eq_some_iff.mpr ⟨_, hrun', hloop⟩⟩, hR'⟩

/-- A loop whose body only reads its token runs it on the pieces of the text in order. -/
theorem tokenLoop_pieces {β : Type} {d : Char} (hdn : d ≠ nul)
    {body : Memory → ℕ → β → Option (Memory × β)} {f : β → Text → Option β}
    (hbody : ∀ m p b, body m p b = (cstr m p).bind fun tok => (f b tok).map (m, ·))
    {t : Text} (hn : nul ∉ t) (pre post : Memory) {fuel : ℕ} (hf : t.length < fuel) (b : β) :
    (tokenLoop d body fuel (pre ++ (t ++ nul :: post)) pre.length b).map Prod.snd =
      (pieces d t).foldlM f b := by
  induction fuel generalizing t pre b with
  | zero => simp at hf
  | succ fuel ih =>
    rw [pieces_of_nextToken]
    rcases nextToken_cases d t with
      ⟨hds, hnone⟩ | ⟨ds, tok, hds, hne, hd, ⟨rfl, hlast⟩ | ⟨rest, rfl, hmore⟩⟩
    · simp [tokenLoop, strtokR_none hdn hds, hnone]
    · have hnt : nul ∉ tok := fun hm => hn (List.mem_append_right _ hm)
      have hpos : 0 < tok.length := List.length_pos_of_ne_nil hne
      obtain ⟨fuel, rfl⟩ : ∃ n, fuel = n + 1 := ⟨fuel - 1, by simp at hf; omega⟩
      have htok := strtokR_last hds hne hd hnt pre post
      have hread := cstr_after hnt (pre ++ ds) post
      have hend : strtokR d (pre ++ ds ++ tok ++ ([] ++ nul :: post)) (pre ++ ds ++ tok).length =
          _ := strtokR_none hdn (by simp) _ post
      simp only [List.append_assoc, List.length_append, List.nil_append, List.length_nil,
        Nat.add_zero, ← Nat.add_assoc] at htok hread hend ⊢
      simp only [tokenLoop, htok, hbody, hread, hlast, Option.bind_eq_bind, Option.bind_some,
        Option.elim, List.foldlM_cons, List.foldlM_nil]
      cases f b tok with
      | none => rfl
      | some b' => simp [hend]
    · have hnt : nul ∉ tok := fun hm => hn (by simp [hm])
      have hnr : nul ∉ rest := fun hm => hn (by simp [hm])
      have htok := strtokR_more hdn hds hne hd hnt pre (rest ++ nul :: post)
      have hread := cstr_after hnt (pre ++ ds) (rest ++ nul :: post)
      have hrest := fun b' => ih hnr (pre ++ ds ++ tok ++ [nul]) (by simp at hf; omega) b'
      rw [hmore]
      simp only [List.append_assoc, List.length_append, List.cons_append, List.nil_append,
        List.length_cons, List.length_nil, Nat.zero_add, ← Nat.add_assoc] at htok hread hrest ⊢
      simp only [tokenLoop, htok, hbody, hread, Option.bind_eq_bind, Option.bind_some,
        Option.elim, List.foldlM_cons]
      cases f b tok with
      | none => rfl
      | some b' => exact hrest b'

theorem formatInt_chars (r : ℤ) : ∀ c ∈ formatInt r, c.isDigit ∨ c = '-' := by
  intro c hc
  cases r with
  | ofNat n => exact Or.inl (Nat.isDigit_of_mem_toDigits (by decide) (by decide) hc)
  | negSucc n =>
    rcases List.mem_cons.mp hc with rfl | hc
    · exact Or.inr rfl
    · exact Or.inl (Nat.isDigit_of_mem_toDigits (by decide) (by decide) hc)

theorem not_mem_formatInt (r : ℤ) {c : Char} (hd : c.isDigit = false) (hm : c ≠ '-') :
    c ∉ formatInt r := by
  intro hc
  rcases formatInt_chars r c hc with h | h
  · simp [hd] at h
  · exact hm h

theorem isSpace_of_isDigit {c : Char} (h : c.isDigit = true) : isSpace c = false := by
  have hlow : 48 ≤ c.toNat := by
    simp only [Char.isDigit, Bool.and_eq_true, decide_eq_true_eq] at h
    exact UInt32.le_iff_toNat_le.mp h.1
  have hblank : c ≠ ' ' := by
    rintro rfl
    revert hlow
    decide
  simp only [isSpace, Bool.or_eq_false_iff, beq_eq_false_iff_ne, Bool.and_eq_false_iff,
    decide_eq_false_iff_not]
  exact ⟨hblank, Or.inr (by omega)⟩
private theorem takeWhile_toDigits (n : ℕ) :
    (Nat.toDigits 10 n).takeWhile Char.isDigit = Nat.toDigits 10 n :=
  List.takeWhile_eq_self_iff.mpr fun _ hc =>
    Nat.isDigit_of_mem_toDigits (by decide) (by decide) hc

theorem decimal_formatInt (r : ℤ) : decimal (formatInt r) = r := by
  cases r with
  | ofNat n =>
    obtain ⟨c, cs, hcs⟩ := List.exists_cons_of_ne_nil (Nat.toDigits_ne_nil (n := n) (b := 10))
    have hc : c.isDigit := Nat.isDigit_of_mem_toDigits (b := 10) (n := n) (by decide)
      (by decide) (by rw [hcs]; simp)
    have hw := isSpace_of_isDigit hc
    have hm : c ≠ '-' := by rintro rfl; simp at hc
    have hp : c ≠ '+' := by rintro rfl; simp at hc
    have hdrop : (formatInt (.ofNat n)).dropWhile isSpace = c :: cs := by
      simp [formatInt, hcs, hw]
    have hval := Nat.ofDigitChars_ten_toDigits (n := n)
    have htake := takeWhile_toDigits n
    rw [hcs] at hval htake
    simp only [decimal, hdrop]
    split
    · next h => exact absurd (List.cons.inj h).1 hm
    · next h => exact absurd (List.cons.inj h).1 hp
    · rw [htake, hval]
      rfl
  | negSucc n =>
    have hw : (formatInt (.negSucc n)).dropWhile isSpace =
        '-' :: Nat.toDigits 10 (n + 1) := by
      rw [formatInt, List.dropWhile_cons_of_neg (by decide)]
    simp only [decimal, hw, takeWhile_toDigits, Nat.ofDigitChars_ten_toDigits]
    rfl

@[simp] theorem atoi_formatInt (r : BitVec 32) : atoi (formatInt r.toInt) = r := by
  have hlow := BitVec.le_toInt r
  have hhigh := BitVec.toInt_lt (x := r)
  have hclamp : max (-2 ^ 63) (min r.toInt (2 ^ 63 - 1)) = r.toInt := by omega
  rw [atoi, decimal_formatInt, hclamp, BitVec.ofInt_toInt]

end CString
