import RmtLibrary.DatainfoAgent

/-! # The reply to a GET request

The GET branch of `recv_request` against its purpose: call the get functions of the requested
keys in order and report what they return. The growth of the reply buffer is said apart from
the calls. -/
namespace GetReply

open CString (Text Memory nul)
open DatainfoAgent

variable {σ : Type}

def callGet (f : DatainfoFunc σ) (w : σ) : Text × σ :=
  match f.getFunc with
  | none => ([], w)
  | some get => get w

/-- Each requested key that has an entry, with the value of its first entry. -/
def callGetFuncs (agent : Agent σ) : List Text → σ → List (Text × Text) × σ
  | [], w => ([], w)
  | key :: keys, w =>
    match agent.find key with
    | none => callGetFuncs agent keys w
    | some f =>
      let (value, w) := callGet f w
      let (pairs, w) := callGetFuncs agent keys w
      ((key, value) :: pairs, w)

def pairText (pair : Text × Text) : Text := pair.1 ++ ':' :: pair.2 ++ [';']

def replyText (pairs : List (Text × Text)) : Text := pairs.flatMap pairText

/-- How the reply text is read back: pairs end at semicolons, a key ends at its first colon. -/
def splitPair (t : Text) : Text × Text :=
  (t.takeWhile (· != ':'), (t.dropWhile (· != ':')).tail)

def splitPairs (reply : Text) : List (Text × Text) := (CString.pieces ';' reply).map splitPair

/-- The allocated size and the text of the reply after some pairs. -/
def appendPairs (pairs : List (Text × Text)) (buffer : ℕ × Text) : Option (ℕ × Text) :=
  pairs.foldlM (fun (size, text) (key, value) => appendValue size text key value) buffer

@[simp] theorem replyText_nil : replyText [] = [] := rfl

@[simp] theorem replyText_cons (pair : Text × Text) (pairs : List (Text × Text)) :
    replyText (pair :: pairs) = pairText pair ++ replyText pairs := rfl

@[simp] theorem length_pairText (pair : Text × Text) :
    (pairText pair).length = pair.1.length + pair.2.length + 2 := by
  simp [pairText]
  omega

@[simp] theorem appendPairs_nil (buffer : ℕ × Text) : appendPairs [] buffer = some buffer := rfl

@[simp] theorem appendPairs_cons (pair : Text × Text) (pairs : List (Text × Text))
    (buffer : ℕ × Text) : appendPairs (pair :: pairs) buffer =
      (appendValue buffer.1 buffer.2 pair.1 pair.2).bind (appendPairs pairs) :=
  List.foldlM_cons ..

def Fits (size : ℕ) (text : Text) : Prop := text.length + 1 ≤ size ∧ size < 2 ^ 32

/-- Growing when the old size is at most the new length leaves room for the terminator. -/
theorem appendValue_fits {size : ℕ} {text : Text} (hfits : Fits size text) (pair : Text × Text)
    (hlen : (text ++ pairText pair).length < 2 ^ 31) :
    ∃ size', appendValue size text pair.1 pair.2 = some (size', text ++ pairText pair) ∧
      Fits size' (text ++ pairText pair) := by
  obtain ⟨hroom, hword⟩ := hfits
  have happ : text ++ pair.1 ++ ':' :: pair.2 ++ [';'] = text ++ pairText pair := by
    simp [pairText]
  have hnew : text.length + pair.1.length + pair.2.length + 2 =
      (text ++ pairText pair).length := by
    simp only [List.length_append, length_pairText]
    omega
  have hpos : 2 ≤ (text ++ pairText pair).length := by omega
  have hsum : (text ++ pairText pair).length % 2 ^ 32 = (text ++ pairText pair).length :=
    Nat.mod_eq_of_lt (by omega)
  have hdouble : (text ++ pairText pair).length * 2 % 2 ^ 32 =
      (text ++ pairText pair).length * 2 := Nat.mod_eq_of_lt (by omega)
  simp only [appendValue, happ, hnew, hsum, hdouble]
  by_cases hgrow : size ≤ (text ++ pairText pair).length
  · rw [if_pos hgrow, if_pos (by omega)]
    exact ⟨_, rfl, by omega, by omega⟩
  · rw [if_neg hgrow, if_pos (by omega)]
    exact ⟨_, rfl, by omega, hword⟩

theorem appendPairs_fits {pairs : List (Text × Text)} {size : ℕ} {text : Text}
    (hfits : Fits size text) (hlen : (text ++ replyText pairs).length < 2 ^ 31) :
    ∃ size', appendPairs pairs (size, text) = some (size', text ++ replyText pairs) ∧
      Fits size' (text ++ replyText pairs) := by
  induction pairs generalizing size text with
  | nil => exact ⟨size, by simp, by simpa using hfits⟩
  | cons pair pairs ih =>
    rw [replyText_cons, ← List.append_assoc] at hlen ⊢
    have hpair : (text ++ pairText pair).length < 2 ^ 31 := by
      rw [List.length_append] at hlen
      omega
    obtain ⟨size₁, happ, hfits₁⟩ := appendValue_fits hfits pair hpair
    obtain ⟨size₂, hrest, hfits₂⟩ := ih hfits₁ hlen
    refine ⟨size₂, ?_, hfits₂⟩
    rw [appendPairs_cons, happ]
    exact hrest

def getText (agent : Agent σ) (acc : ℕ × Text × σ) (keys : Text) : Option (ℕ × Text × σ) :=
  match agent.find keys with
  | none => some acc
  | some f => do
    let (value, w) ← getValue agent.datainfoValSize f acc.2.2
    let (resultMsgSize, resultMsg) ← appendValue acc.1 acc.2.1 keys value
    some (resultMsgSize, resultMsg, w)

theorem getStep_eq (agent : Agent σ) (m : Memory) (p : ℕ) (acc : ℕ × Text × σ) :
    getStep agent m p acc =
      (CString.cstr m p).bind fun keys => (getText agent acc keys).map (m, ·) := by
  obtain ⟨size, text, w⟩ := acc
  cases hkeys : CString.cstr m p with
  | none => simp [getStep, hkeys]
  | some keys =>
    simp only [getStep, hkeys, getText, Option.bind_eq_bind, Option.bind_some]
    cases agent.find keys with
    | none => rfl
    | some f =>
      simp only
      cases getValue agent.datainfoValSize f w with
      | none => rfl
      | some r =>
        simp only [Option.bind_some]
        cases appendValue size text keys r.1 <;> rfl

theorem getValue_eq {valSize : ℕ} {f : DatainfoFunc σ} {w : σ}
    (hnul : nul ∉ (callGet f w).1) (hlen : (callGet f w).1.length < valSize) :
    getValue valSize f w = some (callGet f w) := by
  obtain ⟨n, rfl⟩ : ∃ n, valSize = n + 1 := ⟨valSize - 1, by omega⟩
  cases hget : f.getFunc with
  | none =>
    have hempty := CString.cstr_after (List.not_mem_nil (a := nul)) [] (List.replicate n nul)
    simp only [List.nil_append, List.length_nil] at hempty
    simp [getValue, callGet, hget, List.replicate_succ, hempty]
  | some get =>
    simp only [callGet, hget] at hnul hlen ⊢
    simp only [getValue, hget, if_pos hlen, CString.cstr_strncpy hnul hlen, Option.map_some]

theorem getKeys_eq (agent : Agent σ) {keys : List Text} {w : σ}
    (hvals : ∀ pair ∈ (callGetFuncs agent keys w).1,
      nul ∉ pair.2 ∧ pair.2.length < agent.datainfoValSize) (size : ℕ) (text : Text) :
    keys.foldlM (getText agent) (size, text, w) =
      (appendPairs (callGetFuncs agent keys w).1 (size, text)).map
        fun buffer => (buffer.1, buffer.2, (callGetFuncs agent keys w).2) := by
  induction keys generalizing size text w with
  | nil => rfl
  | cons key keys ih =>
    rw [List.foldlM_cons]
    cases hfind : agent.find key with
    | none =>
      simp only [callGetFuncs, hfind] at hvals ⊢
      simp only [getText, hfind, Option.bind_eq_bind, Option.bind_some]
      exact ih hvals size text
    | some f =>
      simp only [callGetFuncs, hfind] at hvals ⊢
      obtain ⟨hnul, hlen⟩ := hvals (key, (callGet f w).1) List.mem_cons_self
      have hrest := ih fun pair hp => hvals pair (List.mem_cons_of_mem _ hp)
      simp only [getText, hfind, getValue_eq hnul hlen, Option.bind_eq_bind, Option.bind_some,
        appendPairs_cons]
      cases appendValue size text key (callGet f w).1 with
      | none => rfl
      | some buffer => exact hrest buffer.1 buffer.2

theorem callGetFuncs_keys (agent : Agent σ) (keys : List Text) (w : σ) :
    (callGetFuncs agent keys w).1.map Prod.fst =
      keys.filter (· ∈ agent.datainfoFuncMaps.map (·.key)) := by
  induction keys generalizing w with
  | nil => rfl
  | cons key keys ih =>
    cases hfind : agent.find key with
    | none =>
      have hnot : key ∉ agent.datainfoFuncMaps.map (·.key) := by
        intro hm
        obtain ⟨f, hf, rfl⟩ := List.mem_map.mp hm
        have hne := List.find?_eq_none.mp hfind f hf
        simp at hne
      rw [callGetFuncs, List.filter_cons_of_neg (by simpa using hnot), hfind]
      exact ih w
    | some f =>
      have hkey : f.key = key := by simpa using List.find?_some hfind
      have hin : key ∈ agent.datainfoFuncMaps.map (·.key) := by
        rw [← hkey]
        exact List.mem_map_of_mem (List.mem_of_find?_eq_some hfind)
      rw [callGetFuncs, List.filter_cons_of_pos (by simpa using hin), hfind]
      simp only [List.map_cons, ih]

theorem splitPair_pairText {key value : Text} (hkey : ':' ∉ key) :
    splitPair (key ++ ':' :: value) = (key, value) := by
  rw [splitPair, CString.takeWhile_before hkey, CString.dropWhile_before hkey]
  rfl

theorem splitPairs_replyText {pairs : List (Text × Text)}
    (hkeys : ∀ pair ∈ pairs, ':' ∉ pair.1 ∧ ';' ∉ pair.1)
    (hvalues : ∀ pair ∈ pairs, ';' ∉ pair.2) : splitPairs (replyText pairs) = pairs := by
  induction pairs with
  | nil => rfl
  | cons pair pairs ih =>
    obtain ⟨hcolon, hsemi⟩ := hkeys pair List.mem_cons_self
    have hvalue := hvalues pair List.mem_cons_self
    have hrest := ih (fun p hp => hkeys p (List.mem_cons_of_mem _ hp))
      fun p hp => hvalues p (List.mem_cons_of_mem _ hp)
    have hone : ';' ∉ pair.1 ++ ':' :: pair.2 := by simp [hsemi, hvalue]
    have htext :
        replyText (pair :: pairs) = (pair.1 ++ ':' :: pair.2) ++ ';' :: replyText pairs := by
      simp [pairText]
    simp only [splitPairs] at hrest ⊢
    rw [htext, CString.pieces_append_delim, CString.pieces_single hone, if_neg (by simp),
      List.map_append, hrest]
    simp [splitPair_pairText hcolon]

theorem getBranch_eq (agent : Agent σ) {msg : Text} {w : σ} (hmsg : nul ∉ msg)
    (hvalues : ∀ pair ∈ (callGetFuncs agent (CString.pieces ';' msg) w).1,
      nul ∉ pair.2 ∧ pair.2.length < agent.datainfoValSize)
    (hlen : (replyText (callGetFuncs agent (CString.pieces ';' msg) w).1).length < 2 ^ 31) :
    getBranch agent msg w = some (replyText (callGetFuncs agent (CString.pieces ';' msg) w).1,
      (callGetFuncs agent (CString.pieces ';' msg) w).2) := by
  have hstart : Fits 1024 [] := by simp [Fits]
  have hloop := CString.tokenLoop_pieces (d := ';') (by decide)
    (f := getText agent) (getStep_eq agent) hmsg [] [] (Nat.lt_succ_self msg.length) (1024, [], w)
  obtain ⟨size, happ, -⟩ := appendPairs_fits hstart (by simpa using hlen)
  rw [getKeys_eq agent hvalues 1024 [], happ] at hloop
  simp only [List.nil_append, Option.map_some, List.length_nil] at hloop
  obtain ⟨⟨m, acc⟩, hrun, hacc⟩ := Option.map_eq_some_iff.mp hloop
  simp only at hacc
  subst hacc
  have hblock : (CString.ofText msg).length = msg.length.succ := by simp [CString.ofText]
  rw [getBranch, hblock, CString.ofText, hrun]
  rfl

/-- The reply is the requested keys that have an entry, each with the text of its first entry,
the buffer holds it after every append, and a client can split it again. -/
theorem getBranch_reply (agent : Agent σ) (msg : Text) (w : σ) (hmsg : nul ∉ msg)
    (hvalues : ∀ pair ∈ (callGetFuncs agent (CString.pieces ';' msg) w).1,
      nul ∉ pair.2 ∧ pair.2.length < agent.datainfoValSize)
    (hlen : (replyText (callGetFuncs agent (CString.pieces ';' msg) w).1).length < 2 ^ 31) :
    let keys := CString.pieces ';' msg
    let (pairs, w') := callGetFuncs agent keys w
    getBranch agent msg w = some (replyText pairs, w') ∧
    pairs.map Prod.fst = keys.filter (· ∈ agent.datainfoFuncMaps.map (·.key)) ∧
    (∀ done, done <+: pairs → ∃ size,
      appendPairs done (1024, []) = some (size, replyText done) ∧ Fits size (replyText done)) ∧
    ((∀ pair ∈ pairs, ':' ∉ pair.1 ∧ ';' ∉ pair.2) → splitPairs (replyText pairs) = pairs) := by
  have hstart : Fits 1024 [] := by simp [Fits]
  have hbranch := getBranch_eq agent hmsg hvalues hlen
  have hkeys := callGetFuncs_keys agent (CString.pieces ';' msg) w
  rcases hpairs : callGetFuncs agent (CString.pieces ';' msg) w with ⟨pairs, w'⟩
  simp only [hpairs] at hlen hbranch hkeys ⊢
  refine ⟨hbranch, hkeys, ?_, ?_⟩
  · rintro done ⟨later, rfl⟩
    have hdone : ([] ++ replyText done).length < 2 ^ 31 := by
      rw [replyText, List.flatMap_append, List.length_append] at hlen
      rw [List.nil_append, replyText]
      omega
    simpa using appendPairs_fits hstart hdone
  · intro hsep
    apply splitPairs_replyText
    · intro pair hp
      have hmem : pair.1 ∈ pairs.map Prod.fst := List.mem_map_of_mem hp
      rw [hkeys] at hmem
      exact ⟨(hsep pair hp).1, (CString.mem_pieces (List.mem_filter.mp hmem).1).2⟩
    · exact fun pair hp => (hsep pair hp).2

def meter : Agent ℕ :=
  { myid := 1
    datainfoFuncMaps :=
      [⟨"cpu".toList, some fun n => (CString.formatInt n, n + 1), none⟩,
        ⟨"ram".toList, none, none⟩, ⟨"cpu".toList, none, none⟩]
    fileinfoFuncMaps := []
    datainfoValSize := 8
    writeFile := fun _ _ w => some w
    readFile := fun _ _ => none }

theorem getBranch_reply_meter :
    getBranch meter ";cpu;ram;;disk;cpu".toList 7 = some ("cpu:7;ram:;cpu:8;".toList, 9) ∧
    splitPairs "cpu:7;ram:;cpu:8;".toList =
      [("cpu".toList, "7".toList), ("ram".toList, []), ("cpu".toList, "8".toList)] := by
  obtain ⟨hreply, -, -, hsplit⟩ :=
    getBranch_reply meter ";cpu;ram;;disk;cpu".toList 7 (by decide) (by decide) (by decide)
  exact ⟨hreply, hsplit (by decide)⟩

end GetReply
