import RmtLibrary.DatainfoAgent

/-! # What an agent reads from a SET message

The in-place tokenizing of the SET branch, said on texts: which piece of the message the agent
cuts out, and the items it reads there. A value is the text that the computed pointer points to,
which may lie behind the item. -/
namespace SetItems

open CString (Text Memory nul nextToken nthToken)
open Idl (DataInfoType)
open DatainfoAgent

variable {σ : Type}

/-- Key and value of one pair. `behind` is what follows the terminator of the pair. The value
starts one character behind the key's length, counted from the start of the pair. -/
def readPair (behind : Option Text) (pair : Text) : Option (Text × Option Text) :=
  (nextToken ':' pair).map fun (key, rest) =>
    (key, if pair.head? = some ':' then
        some ((pair.takeWhile (· == ':') ++ key).drop (key.length + 1))
      else rest.or behind)

/-- The items between semicolons, or `none` if one of them has no key. -/
def readItems (behind : Option Text) (t : Text) : Option (List (Text × Option Text)) :=
  match _h : nextToken ';' t with
  | none => some []
  | some (pair, none) => (readPair behind pair).map fun item => [item]
  | some (pair, some rest) => do
    let item ← readPair (some rest) pair
    let items ← readItems behind rest
    some (item :: items)
termination_by t.length
decreasing_by
  have hlen := CString.nextToken_rest_length _h
  omega

/-- One item calls the set function of the first entry with its key. -/
def runItem (agent : Agent σ) : Text × Option Text → Text × σ → Option (Text × σ)
  | (key, value), (resultMsg, w) =>
    match (agent.find key).bind DatainfoFunc.setFunc with
    | none => some (resultMsg, w)
    | some set => do
      let value ← value
      let (result, w) := set value w
      let resultMsg ← appendResult resultMsg key result
      some (resultMsg, w)

def runItems (agent : Agent σ) (items : List (Text × Option Text)) (acc : Text × σ) :
    Option (Text × σ) := items.foldlM (fun acc item => runItem agent item acc) acc

@[simp] theorem runItems_nil (agent : Agent σ) (acc : Text × σ) :
    runItems agent [] acc = some acc := rfl

@[simp] theorem runItems_cons (agent : Agent σ) (item : Text × Option Text)
    (items : List (Text × Option Text)) (acc : Text × σ) :
    runItems agent (item :: items) acc = (runItem agent item acc).bind (runItems agent items) :=
  List.foldlM_cons ..

/-- The items an agent reads from a message that has its ID at position `k`. -/
def viewedItems (type : DataInfoType) (msg : Text) (k : ℕ) :
    Option (List (Text × Option Text)) :=
  if type = .set then (nthToken '|' k msg).bind fun (seg, rest) => readItems rest seg
  else readItems none msg

/-- One turn of the loop over the pairs: the pair, and the key and value that `strtok` and the
pointer arithmetic make of it. Without a key `strtok` has answered `NULL`; without a value its
pointer has left the message. -/
structure Turn where
  pair : Text
  cut : Option (Text × Option Text)
  deriving DecidableEq, Repr

def cutPair (m : Memory) (pairs : ℕ) : Option (Memory × Option (Text × Option Text)) := do
  let (m, key, _) ← CString.strtokR ':' m pairs
  match key with
  | none => some (m, none)
  | some key =>
    let key ← CString.cstr m key
    some (m, some (key, CString.cstr m (pairs + key.length + 1)))

def turnStep (m : Memory) (pairs : ℕ) (turns : List Turn) : Option (Memory × List Turn) := do
  let pair ← CString.cstr m pairs
  let (m, cut) ← cutPair m pairs
  some (m, turns ++ [⟨pair, cut⟩])

/-- The loop over the pairs without the calls of set functions. -/
def parsePairs (type : DataInfoType) (msg : Text) (foundIdx : ℕ) : Option (List Turn) := do
  let (m, pairs) ← setPairsList type msg foundIdx
  (CString.tokenLoop ';' turnStep m.length m pairs []).map Prod.snd

def textTurns (behind : Option Text) (t : Text) : List Turn :=
  match _h : nextToken ';' t with
  | none => []
  | some (pair, none) => [⟨pair, readPair behind pair⟩]
  | some (pair, some rest) => ⟨pair, readPair (some rest) pair⟩ :: textTurns behind rest
termination_by t.length
decreasing_by
  have hlen := CString.nextToken_rest_length _h
  omega

/-- The turns with their calls. A pair without a key ends them. -/
def runTurns (agent : Agent σ) (turns : List Turn) (acc : Text × σ) : Option (Text × σ) :=
  turns.foldlM (fun acc turn => turn.cut.bind fun item => runItem agent item acc) acc

@[simp] theorem runTurns_nil (agent : Agent σ) (acc : Text × σ) :
    runTurns agent [] acc = some acc := rfl

@[simp] theorem runTurns_cons (agent : Agent σ) (turn : Turn) (turns : List Turn)
    (acc : Text × σ) : runTurns agent (turn :: turns) acc =
      (turn.cut.bind fun item => runItem agent item acc).bind (runTurns agent turns) :=
  List.foldlM_cons ..

theorem cstr_append (pre m : Memory) (p : ℕ) :
    CString.cstr (pre ++ m) (pre.length + p) = CString.cstr m p := by
  simp [CString.cstr]

theorem cstr_inside {t : Text} (ht : nul ∉ t) {p : ℕ} (hp : p ≤ t.length) (post : Memory) :
    CString.cstr (t ++ nul :: post) p = some (t.drop p) := by
  have hdrop : nul ∉ t.drop p := fun hm => ht (List.mem_of_mem_drop hm)
  have h := CString.cstr_after hdrop (t.take p) post
  rw [← List.append_assoc, List.take_append_drop, List.length_take_of_le hp] at h
  exact h

/-- Where the value of a pair is read, by the colons in front of its key. -/
theorem cstr_value {ds key : Text} (hn : nul ∉ ds ++ key) (tail : Memory) :
    CString.cstr ((ds ++ key) ++ nul :: tail) (key.length + 1) =
      if ds = [] then CString.cstr tail 0 else some ((ds ++ key).drop (key.length + 1)) := by
  by_cases hds : ds = []
  · have hbehind := cstr_append (key ++ [nul]) tail 0
    simp only [List.append_assoc, List.singleton_append, List.length_append, List.length_cons,
      List.length_nil, Nat.add_zero, Nat.zero_add] at hbehind
    rw [if_pos hds, hds, List.nil_append]
    exact hbehind
  · have hpos : 0 < ds.length := List.length_pos_of_ne_nil hds
    rw [if_neg hds]
    apply cstr_inside hn
    rw [List.length_append]
    omega

theorem readPair_eq {ds key x : Text} (hds : ∀ c ∈ ds, c = ':') (hne : key ≠ []) (hd : ':' ∉ key)
    {rest : Option Text} (htok : nextToken ':' (ds ++ key ++ x) = some (key, rest))
    (behind : Option Text) :
    readPair behind (ds ++ key ++ x) =
      some (key, if ds = [] then rest.or behind else some ((ds ++ key).drop (key.length + 1))) := by
  obtain ⟨c, cs, rfl⟩ := List.exists_cons_of_ne_nil hne
  have hc : c ≠ ':' := by
    intro he
    simp [he] at hd
  have htake : (ds ++ (c :: cs) ++ x).takeWhile (· == ':') = ds := by
    rw [List.append_assoc, List.takeWhile_append_of_pos (by simpa using hds)]
    simp [hc]
  rw [readPair, htok, htake]
  by_cases he : ds = []
  · simp [he, hc]
  · obtain ⟨d, ds', rfl⟩ := List.exists_cons_of_ne_nil he
    have hd' : d = ':' := hds d List.mem_cons_self
    simp [hd']

theorem setStep_cut (agent : Agent σ) (m : Memory) (pairs : ℕ) (acc : Text × σ) :
    setStep agent m pairs acc = (cutPair m pairs).bind fun r =>
      r.2.bind fun item => (runItem agent item acc).map (r.1, ·) := by
  simp only [setStep, cutPair, Option.bind_eq_bind]
  cases CString.strtokR ':' m pairs with
  | none => rfl
  | some r =>
    obtain ⟨m', p, save⟩ := r
    cases p with
    | none => rfl
    | some p =>
      simp only [Option.bind_some]
      cases CString.cstr m' p with
      | none => rfl
      | some key =>
        simp only [Option.bind_some, runItem]
        cases (agent.find key).bind DatainfoFunc.setFunc with
        | none => rfl
        | some set =>
          simp only
          cases CString.cstr m' (pairs + key.length + 1) with
          | none => rfl
          | some value =>
            simp only [Option.bind_eq_bind, Option.bind_some]
            cases appendResult acc.1 key (set value acc.2).1 <;> rfl

theorem cutPair_of_key {m m' : Memory} {pairs p save : ℕ} {key : Text}
    (htok : CString.strtokR ':' m pairs = some (m', some p, save))
    (hkey : CString.cstr m' p = some key) : cutPair m pairs =
      some (m', some (key, CString.cstr m' (pairs + key.length + 1))) := by
  simp only [cutPair, htok, hkey, Option.bind_eq_bind, Option.bind_some]

theorem cutPair_eq {pair : Text} (hn : nul ∉ pair) (pre post : Memory) :
    ∃ pair' : Memory, pair'.length = pair.length ∧
      cutPair (pre ++ (pair ++ nul :: post)) pre.length =
        some (pre ++ (pair' ++ nul :: post), readPair (CString.cstr post 0) pair) := by
  have hcolon : (':' : Char) ≠ nul := by decide
  rcases CString.nextToken_cases ':' pair with
    ⟨hds, hnone⟩ | ⟨ds, key, hds, hne, hd, ⟨rfl, hlast⟩ | ⟨rest, rfl, hmore⟩⟩
  · refine ⟨pair, rfl, ?_⟩
    simp [cutPair, CString.strtokR_none hcolon hds, readPair, hnone]
  · -- the key ends with the pair, so a value pointer without colons points behind it
    refine ⟨ds ++ key, rfl, ?_⟩
    have hnk : nul ∉ key := fun hm => hn (List.mem_append_right _ hm)
    have htok := CString.strtokR_last hds hne hd hnk pre post
    have hkey := CString.cstr_after hnk (pre ++ ds) post
    have hvalue := cstr_append pre ((ds ++ key) ++ nul :: post) (key.length + 1)
    have hread := readPair_eq (x := []) hds hne hd (by simpa using hlast) (CString.cstr post 0)
    rw [cstr_value hn] at hvalue
    simp only [List.append_assoc, List.append_nil, List.length_append, Option.none_or,
      ← Nat.add_assoc] at htok hkey hvalue hread ⊢
    rw [cutPair_of_key htok hkey, hread, hvalue]
  · refine ⟨ds ++ key ++ nul :: rest, by simp, ?_⟩
    have hndk : nul ∉ ds ++ key := by
      intro hm
      exact hn (List.mem_append_left _ hm)
    have hnk : nul ∉ key := fun hm => hndk (List.mem_append_right _ hm)
    have hnr : nul ∉ rest := by
      intro hm
      exact hn (List.mem_append_right _ (List.mem_cons_of_mem _ hm))
    have htok := CString.strtokR_more hcolon hds hne hd hnk pre (rest ++ nul :: post)
    have hkey := CString.cstr_after hnk (pre ++ ds) (rest ++ nul :: post)
    have hvalue := cstr_append pre ((ds ++ key) ++ nul :: (rest ++ nul :: post)) (key.length + 1)
    have hread := readPair_eq (x := ':' :: rest) hds hne hd hmore (CString.cstr post 0)
    have hrest : CString.cstr (rest ++ nul :: post) 0 = some rest := CString.cstr_after hnr [] post
    rw [cstr_value hndk, hrest] at hvalue
    simp only [List.append_assoc, List.cons_append, List.length_append, Option.some_or,
      ← Nat.add_assoc] at htok hkey hvalue hread ⊢
    rw [cutPair_of_key htok hkey, hread, hvalue]

theorem turnStep_eq {pair : Text} (hn : nul ∉ pair) (pre post : Memory) (turns : List Turn) :
    ∃ pair' : Memory, pair'.length = pair.length ∧
      turnStep (pre ++ (pair ++ nul :: post)) pre.length turns =
        some (pre ++ (pair' ++ nul :: post),
          turns ++ [⟨pair, readPair (CString.cstr post 0) pair⟩]) := by
  obtain ⟨pair', hlen, hcut⟩ := cutPair_eq hn pre post
  refine ⟨pair', hlen, ?_⟩
  simp only [turnStep, CString.cstr_after hn, hcut, Option.bind_eq_bind, Option.bind_some]

theorem readItems_none {t : Text} (h : nextToken ';' t = none) (behind : Option Text) :
    readItems behind t = some [] := by
  rw [readItems]
  split <;> simp_all

theorem readItems_last {t pair : Text} (h : nextToken ';' t = some (pair, none))
    (behind : Option Text) :
    readItems behind t = (readPair behind pair).map fun item => [item] := by
  rw [readItems]
  split <;> simp_all

theorem readItems_more {t pair rest : Text} (h : nextToken ';' t = some (pair, some rest))
    (behind : Option Text) :
    readItems behind t = (readPair (some rest) pair).bind fun item =>
      (readItems behind rest).bind fun items => some (item :: items) := by
  rw [readItems]
  split <;> simp_all

theorem textTurns_none {t : Text} (h : nextToken ';' t = none) (behind : Option Text) :
    textTurns behind t = [] := by
  rw [textTurns]
  split <;> simp_all

theorem textTurns_last {t pair : Text} (h : nextToken ';' t = some (pair, none))
    (behind : Option Text) : textTurns behind t = [⟨pair, readPair behind pair⟩] := by
  rw [textTurns]
  split <;> simp_all

theorem textTurns_more {t pair rest : Text} (h : nextToken ';' t = some (pair, some rest))
    (behind : Option Text) :
    textTurns behind t = ⟨pair, readPair (some rest) pair⟩ :: textTurns behind rest := by
  rw [textTurns]
  split <;> simp_all

theorem turnLoop_eq {t : Text} (hn : nul ∉ t) (pre post : Memory) {fuel : ℕ}
    (hf : t.length < fuel) (turns : List Turn) :
    (CString.tokenLoop ';' turnStep fuel (pre ++ (t ++ nul :: post)) pre.length turns).map
        Prod.snd = some (turns ++ textTurns (CString.cstr post 0) t) := by
  have hsemi : (';' : Char) ≠ nul := by decide
  induction fuel generalizing t pre turns with
  | zero => simp at hf
  | succ fuel ih =>
    rcases CString.nextToken_cases ';' t with
      ⟨hds, hnone⟩ | ⟨ds, pair, hds, hne, hd, ⟨rfl, hlast⟩ | ⟨rest, rfl, hmore⟩⟩
    · simp [CString.tokenLoop, CString.strtokR_none hsemi hds, textTurns_none hnone]
    · have hnp : nul ∉ pair := fun hm => hn (List.mem_append_right _ hm)
      have hpos : 0 < pair.length := List.length_pos_of_ne_nil hne
      obtain ⟨fuel, rfl⟩ : ∃ n, fuel = n + 1 := ⟨fuel - 1, by simp at hf; omega⟩
      obtain ⟨pair', hlen, hstep⟩ := turnStep_eq hnp (pre ++ ds) post turns
      have htok := CString.strtokR_last hds hne hd hnp pre post
      have hend : CString.strtokR ';' (pre ++ ds ++ pair' ++ ([] ++ nul :: post))
          (pre ++ ds ++ pair').length = _ := CString.strtokR_none hsemi (by simp) _ post
      rw [textTurns_last hlast]
      simp only [List.append_assoc, List.length_append, List.nil_append, List.length_nil,
        Nat.add_zero, hlen, ← Nat.add_assoc] at htok hstep hend ⊢
      simp [CString.tokenLoop, htok, hstep, hend]
    · have hnp : nul ∉ pair := fun hm => hn (by simp [hm])
      have hnr : nul ∉ rest := fun hm => hn (by simp [hm])
      obtain ⟨pair', hlen, hstep⟩ := turnStep_eq hnp (pre ++ ds) (rest ++ nul :: post) turns
      have htok := CString.strtokR_more hsemi hds hne hd hnp pre (rest ++ nul :: post)
      have hbehind : CString.cstr (rest ++ nul :: post) 0 = some rest :=
        CString.cstr_after hnr [] post
      have hrest := fun turns' =>
        ih hnr (pre ++ ds ++ pair' ++ [nul]) (by simp at hf; omega) turns'
      rw [textTurns_more hmore]
      rw [hbehind] at hstep
      simp only [List.append_assoc, List.length_append, List.cons_append, List.nil_append,
        List.length_cons, List.length_nil, Nat.zero_add, hlen, ← Nat.add_assoc]
        at htok hstep hrest ⊢
      simp only [CString.tokenLoop, htok, hstep, Option.bind_eq_bind, Option.bind_some]
      rw [hrest, List.append_assoc, List.singleton_append]

theorem setLoop_turns (agent : Agent σ) {fuel : ℕ} {m m' : Memory} {s : ℕ}
    {turns turns' : List Turn}
    (h : CString.tokenLoop ';' turnStep fuel m s turns = some (m', turns')) :
    ∃ later, turns' = turns ++ later ∧ ∀ acc : Text × σ,
      (CString.tokenLoop ';' (setStep agent) fuel m s acc).map Prod.snd =
        runTurns agent later acc := by
  induction fuel generalizing m s turns with
  | zero => cases h
  | succ fuel ih =>
    simp only [CString.tokenLoop, Option.bind_eq_bind, Option.bind_eq_some_iff] at h
    obtain ⟨⟨m₁, p, s₁⟩, htok, h⟩ := h
    cases p with
    | none =>
      obtain ⟨-, rfl⟩ := Prod.mk.inj (Option.some.inj h)
      exact ⟨[], by simp, fun acc => by simp [CString.tokenLoop, htok]⟩
    | some p =>
      obtain ⟨⟨m₂, turns₁⟩, hturn, h⟩ := Option.bind_eq_some_iff.mp h
      simp only [turnStep, Option.bind_eq_bind, Option.bind_eq_some_iff] at hturn
      obtain ⟨pair, -, ⟨m₂', cut⟩, hcut, hturn⟩ := hturn
      obtain ⟨rfl, rfl⟩ := Prod.mk.inj (Option.some.inj hturn)
      obtain ⟨later, rfl, hlater⟩ := ih h
      refine ⟨⟨pair, cut⟩ :: later, by simp, ?_⟩
      intro acc
      simp only [CString.tokenLoop, htok, setStep_cut, hcut, Option.bind_eq_bind,
        Option.bind_some, runTurns_cons]
      cases cut with
      | none => rfl
      | some item =>
        simp only [Option.bind_some]
        cases runItem agent item acc with
        | none => rfl
        | some acc' => exact hlater acc'

theorem runTurns_textTurns (agent : Agent σ) (behind : Option Text) (t : Text)
    (acc : Text × σ) : runTurns agent (textTurns behind t) acc =
      (readItems behind t).bind fun items => runItems agent items acc := by
  induction t using textTurns.induct generalizing acc with
  | case1 t hnone => simp [textTurns_none hnone, readItems_none hnone]
  | case2 t pair hlast =>
    rw [textTurns_last hlast, readItems_last hlast]
    cases readPair behind pair <;> rfl
  | case3 t pair rest hmore ih =>
    rw [textTurns_more hmore, readItems_more hmore, runTurns_cons]
    cases readPair (some rest) pair with
    | none => rfl
    | some item =>
      simp only [Option.bind_some]
      cases hrun : runItem agent item acc with
      | none => cases readItems behind rest <;> simp [hrun]
      | some acc' =>
        simp only [Option.bind_some, ih]
        cases readItems behind rest <;> simp [hrun]

theorem setLoop_eq (agent : Agent σ) {t : Text} (hn : nul ∉ t) (pre post : Memory) {fuel : ℕ}
    (hf : t.length < fuel) (acc : Text × σ) :
    (CString.tokenLoop ';' (setStep agent) fuel (pre ++ (t ++ nul :: post)) pre.length acc).map
        Prod.snd =
      (readItems (CString.cstr post 0) t).bind fun items => runItems agent items acc := by
  obtain ⟨⟨m, turns⟩, hloop, hturns⟩ := Option.map_eq_some_iff.mp (turnLoop_eq hn pre post hf [])
  obtain ⟨later, rfl, hrun⟩ := setLoop_turns agent hloop
  simp only [List.nil_append] at hturns
  rw [hrun, hturns, runTurns_textTurns]

def segment (type : DataInfoType) (msg : Text) (k : ℕ) : Option (Text × Option Text) :=
  if type = .set then nthToken '|' k msg else some (msg, none)

theorem viewedItems_eq (type : DataInfoType) (msg : Text) (k : ℕ) :
    viewedItems type msg k = (segment type msg k).bind fun r => readItems r.2 r.1 := by
  by_cases ht : type = .set <;> simp [viewedItems, segment, ht]

theorem setPairsList_eq (type : DataInfoType) {msg : Text} (hn : nul ∉ msg) (k : ℕ) :
    match segment type msg k with
    | none => setPairsList type msg k = none
    | some (seg, rest) => nul ∉ seg ∧ ∃ pre post : Memory, CString.cstr post 0 = rest ∧
        setPairsList type msg k = some (pre ++ (seg ++ nul :: post), pre.length) := by
  by_cases ht : type = .set
  · have hnth := CString.strtokNth_eq (d := '|') (by decide) k hn [] []
    simp only [segment, setPairsList, CString.ofText, if_pos ht, Option.bind_eq_bind]
    cases hseg : nthToken '|' k msg with
    | none =>
      simp only [hseg, List.nil_append, List.length_nil] at hnth
      obtain ⟨m, s, hm⟩ := hnth
      simp [hm]
    | some r =>
      obtain ⟨seg, rest⟩ := r
      simp only [hseg, List.nil_append, List.length_nil] at hnth
      obtain ⟨hns, hnr, pre, s, hm⟩ := hnth
      refine ⟨hns, pre, rest.elim [] (· ++ nul :: []), ?_, by simp [hm]⟩
      cases rest with
      | none => rfl
      | some r => exact CString.cstr_after (hnr r rfl) [] []
  · simp only [segment, setPairsList, CString.ofText, if_neg ht]
    exact ⟨hn, [], [], rfl, rfl⟩

theorem parsePairs_eq (type : DataInfoType) {msg : Text} (hn : nul ∉ msg) (k : ℕ) :
    parsePairs type msg k = (segment type msg k).map fun r => textTurns r.2 r.1 := by
  have hlist := setPairsList_eq type hn k
  cases hseg : segment type msg k with
  | none =>
    simp only [hseg] at hlist
    simp [parsePairs, hlist]
  | some r =>
    obtain ⟨seg, rest⟩ := r
    simp only [hseg] at hlist
    obtain ⟨hns, pre, post, rfl, hm⟩ := hlist
    simp only [parsePairs, hm, Option.bind_eq_bind, Option.bind_some, Option.map_some]
    exact turnLoop_eq hns pre post
      (by simp only [List.length_append, List.length_cons]; omega) []

/-- The SET branch runs the items that the agent reads from the message. -/
theorem setBranch_eq (agent : Agent σ) (type : DataInfoType) {msg : Text} (hn : nul ∉ msg)
    (k : ℕ) (w : σ) : setBranch agent type msg k w =
      (viewedItems type msg k).bind fun items => runItems agent items ([], w) := by
  have hlist := setPairsList_eq type hn k
  rw [viewedItems_eq]
  cases hseg : segment type msg k with
  | none =>
    simp only [hseg] at hlist
    simp [setBranch, hlist]
  | some r =>
    obtain ⟨seg, rest⟩ := r
    simp only [hseg] at hlist
    obtain ⟨hns, pre, post, rfl, hm⟩ := hlist
    have hfuel : seg.length < (pre ++ (seg ++ nul :: post)).length := by
      simp only [List.length_append, List.length_cons]
      omega
    have hloop := setLoop_eq agent hns pre post hfuel ([], w)
    simp only [setBranch, hm, Option.bind_eq_bind, Option.bind_some, ← hloop]
    cases CString.tokenLoop ';' (setStep agent) (pre ++ (seg ++ nul :: post)).length
      (pre ++ (seg ++ nul :: post)) pre.length ([], w) <;> rfl

theorem setBranch_turns (agent : Agent σ) (type : DataInfoType) {msg : Text} (hn : nul ∉ msg)
    (k : ℕ) (w : σ) : setBranch agent type msg k w =
      (parsePairs type msg k).bind fun turns => runTurns agent turns ([], w) := by
  rw [setBranch_eq agent type hn, viewedItems_eq, parsePairs_eq type hn]
  cases segment type msg k with
  | none => rfl
  | some r => exact (runTurns_textTurns agent r.2 r.1 ([], w)).symm

end SetItems
