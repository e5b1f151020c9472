import RmtLibrary.AgentReplies
import RmtLibrary.DatainfoServer
import RmtLibrary.SetItems

/-! # The SET round trip

The server joins the value lists of all devices with `|`. An agent that finds its ID at position
`k` takes the piece numbered `k` and reads `key:value` items from it. For lists of proper items
it reads back exactly what was written for it, and the reply can be split again. -/
namespace SetRoundTrip

open CString (Text nul nextToken nthToken formatInt)
open DatainfoAgent
open DatainfoServer
open SetItems

variable {σ : Type}

/-- An item of a value list. The value may be empty or contain colons. -/
structure Item where
  key : Text
  value : Text
  key_ne : key ≠ []
  key_plain : ∀ c ∈ key, c ≠ ':' ∧ c ≠ ';' ∧ c ≠ '|' ∧ c ≠ nul
  value_plain : ∀ c ∈ value, c ≠ ';' ∧ c ≠ '|' ∧ c ≠ nul

def Item.text (item : Item) : Text := item.key ++ ':' :: item.value

/-- Items separated by semicolons; the last semicolon is optional. -/
def valueList (trailing : Bool) : List Item → Text
  | [] => []
  | [item] => if trailing then item.text ++ [';'] else item.text
  | item :: items => item.text ++ ';' :: valueList trailing items

structure Settings where
  deviceID : ℕ
  items : List Item
  trailing : Bool
  nonempty : items ≠ []

def Settings.entry (s : Settings) : DataInfo := ⟨s.deviceID, valueList s.trailing s.items⟩

def callSetFuncs (agent : Agent σ) : List Item → σ → List (Text × BitVec 32) × σ
  | [], w => ([], w)
  | item :: items, w =>
    match (agent.find item.key).bind DatainfoFunc.setFunc with
    | none => callSetFuncs agent items w
    | some set =>
      let (result, w) := set item.value w
      let (results, w) := callSetFuncs agent items w
      ((item.key, result) :: results, w)

def resultText (r : Text × BitVec 32) : Text := r.1 ++ ':' :: formatInt r.2.toInt ++ [';']

def replyText (results : List (Text × BitVec 32)) : Text := results.flatMap resultText

/-- The results fit the 128 characters of one item and the 1024 of the reply. -/
structure ReplyFits (results : List (Text × BitVec 32)) : Prop where
  item : ∀ r ∈ results, (resultText r).length < 128
  text : (replyText results).length < 1024

def splitReply (t : Text) : List (Text × ℤ) :=
  (CString.pieces ';' t).filterMap fun piece =>
    match piece.splitOn ':' with
    | [key, result] => some (key, (CString.atoi result).toInt)
    | _ => none

theorem Item.text_ne (item : Item) : item.text ≠ [] := by simp [Item.text]

theorem Item.not_mem_key (item : Item) {c : Char} (h : c = ':' ∨ c = ';' ∨ c = '|' ∨ c = nul) :
    c ∉ item.key := by
  intro hc
  obtain ⟨h₁, h₂, h₃, h₄⟩ := item.key_plain c hc
  rcases h with rfl | rfl | rfl | rfl
  · exact h₁ rfl
  · exact h₂ rfl
  · exact h₃ rfl
  · exact h₄ rfl

theorem Item.not_mem_text (item : Item) {c : Char} (h : c = ';' ∨ c = '|' ∨ c = nul) :
    c ∉ item.text := by
  have hcolon : c ≠ ':' := by rcases h with rfl | rfl | rfl <;> decide
  have hkey : c ∉ item.key := item.not_mem_key (Or.inr h)
  have hvalue : c ∉ item.value := by
    intro hc
    obtain ⟨h₂, h₃, h₄⟩ := item.value_plain c hc
    rcases h with rfl | rfl | rfl
    · exact h₂ rfl
    · exact h₃ rfl
    · exact h₄ rfl
  simp [Item.text, hcolon, hkey, hvalue]

theorem readPair_text (item : Item) (behind : Option Text) :
    readPair behind item.text = some (item.key, some item.value) := by
  have hcolon : ':' ∉ item.key := item.not_mem_key (Or.inl rfl)
  have h : readPair behind ([] ++ item.key ++ ':' :: item.value) = _ :=
    readPair_eq (by simp) item.key_ne hcolon
      (CString.nextToken_cons item.key_ne hcolon item.value) behind
  simpa [Item.text] using h

theorem valueList_cons (trailing : Bool) (item next : Item) (items : List Item) :
    valueList trailing (item :: next :: items) =
      item.text ++ ';' :: valueList trailing (next :: items) := rfl

theorem readItems_valueList (trailing : Bool) {items : List Item} (hne : items ≠ [])
    (behind : Option Text) : readItems behind (valueList trailing items) =
      some (items.map fun item => (item.key, some item.value)) := by
  induction items with
  | nil => exact absurd rfl hne
  | cons item items ih =>
    have hsemi : ';' ∉ item.text := item.not_mem_text (Or.inl rfl)
    cases items with
    | nil =>
      cases trailing with
      | false =>
        have htok : nextToken ';' (valueList false [item]) = some (item.text, none) :=
          CString.nextToken_single item.text_ne hsemi
        rw [readItems_last htok, readPair_text]
        rfl
      | true =>
        have htok : nextToken ';' (valueList true [item]) = some (item.text, some []) :=
          CString.nextToken_cons item.text_ne hsemi []
        rw [readItems_more htok, readPair_text, readItems_none (CString.nextToken_nil ';')]
        rfl
    | cons next items =>
      rw [valueList_cons, readItems_more (CString.nextToken_cons item.text_ne hsemi _),
        readPair_text, ih (List.cons_ne_nil _ _)]
      rfl

theorem not_mem_valueList (trailing : Bool) (items : List Item) {c : Char}
    (h : c = '|' ∨ c = nul) : c ∉ valueList trailing items := by
  have hsemi : c ≠ ';' := by rcases h with rfl | rfl <;> decide
  induction items with
  | nil => simp [valueList]
  | cons item items ih =>
    have htext : c ∉ item.text := item.not_mem_text (Or.inr h)
    cases items with
    | nil => cases trailing <;> simp [valueList, htext, hsemi]
    | cons next items =>
      rw [valueList_cons]
      simp [htext, hsemi, ih]

theorem valueList_ne (trailing : Bool) {items : List Item} (hne : items ≠ []) :
    valueList trailing items ≠ [] := by
  obtain ⟨item, items, rfl⟩ := List.exists_cons_of_ne_nil hne
  have htext := item.text_ne
  cases items with
  | nil => cases trailing <;> simp [valueList, htext]
  | cons next items => simp [valueList_cons]

def joined (devList : List DataInfo) : Text := devList.flatMap fun dev => dev.valueList ++ ['|']

theorem appendValueLists_eq {capacity : ℕ} {buffer : Text} (hb : buffer.length < capacity)
    (devList : List DataInfo) : appendValueLists capacity buffer devList =
      if (buffer ++ joined devList).length < capacity then some (buffer ++ joined devList)
      else none := by
  induction devList generalizing buffer with
  | nil => simp [appendValueLists, joined, hb]
  | cons dev devList ih =>
    have hjoin : buffer ++ joined (dev :: devList) =
        buffer ++ dev.valueList ++ ['|'] ++ joined devList := by simp [joined]
    rw [hjoin]
    by_cases hv : (buffer ++ dev.valueList).length < capacity
    · by_cases hbar : (buffer ++ dev.valueList ++ ['|']).length < capacity
      · simp only [appendValueLists, strcat, if_pos hv, if_pos hbar, Option.bind_eq_bind,
          Option.bind_some, ih hbar]
      · have hlong : ¬ (buffer ++ dev.valueList ++ ['|'] ++ joined devList).length < capacity := by
          simp only [List.length_append] at hbar ⊢
          omega
        simp only [appendValueLists, strcat, if_pos hv, if_neg hbar, if_neg hlong,
          Option.bind_eq_bind, Option.bind_some, Option.bind_none]
    · have hlong : ¬ (buffer ++ dev.valueList ++ ['|'] ++ joined devList).length < capacity := by
        simp only [List.length_append] at hv ⊢
        omega
      simp only [appendValueLists, strcat, if_neg hv, if_neg hlong, Option.bind_eq_bind,
        Option.bind_none]

/-- The size of the block is an `int`, and the joined text and its terminator lie in it. -/
def JoinedFits (devList : List DataInfo) : Prop :=
  1024 * devList.length < 2 ^ 31 ∧ (joined devList).length < 1024 * devList.length

instance (devList : List DataInfo) : Decidable (JoinedFits devList) :=
  inferInstanceAs (Decidable (_ ∧ _))

theorem setInfoBuffer_eq (devList : List DataInfo) : setInfoBuffer devList =
    if JoinedFits devList then some (joined devList) else none := by
  by_cases hint : 1024 * devList.length < 2 ^ 31
  · by_cases hpos : 0 < 1024 * devList.length
    · have hempty : ([] : Text).length < 1024 * devList.length := hpos
      have hiff : JoinedFits devList ↔ (joined devList).length < 1024 * devList.length :=
        and_iff_right hint
      simp only [setInfoBuffer, setInfoCapacity, strcat, List.append_nil, if_pos hint,
        if_pos hempty, Option.bind_eq_bind, Option.bind_some, appendValueLists_eq hempty,
        List.nil_append, hiff]
    · have hempty : ¬ ([] : Text).length < 1024 * devList.length := hpos
      have hno : ¬ JoinedFits devList := fun h => hpos (Nat.zero_lt_of_lt h.2)
      simp only [setInfoBuffer, setInfoCapacity, strcat, List.append_nil, if_pos hint,
        if_neg hempty, if_neg hno, Option.bind_eq_bind, Option.bind_some, Option.bind_none]
  · have hno : ¬ JoinedFits devList := fun h => hint h.1
    simp only [setInfoBuffer, setInfoCapacity, if_neg hint, if_neg hno, Option.bind_eq_bind,
      Option.bind_none]

/-- With proper value lists, the pieces between bars are the value lists. -/
theorem nthToken_joined {devList : List DataInfo}
    (h : ∀ dev ∈ devList, dev.valueList ≠ [] ∧ '|' ∉ dev.valueList) {k : ℕ} {dev : DataInfo}
    (hk : devList[k]? = some dev) :
    ∃ rest, nthToken '|' k (joined devList) = some (dev.valueList, some rest) := by
  induction k generalizing devList with
  | zero =>
    obtain ⟨devList, rfl⟩ : ∃ l, devList = dev :: l := by
      cases devList with
      | nil => simp at hk
      | cons d l => exact ⟨l, by simpa using hk⟩
    obtain ⟨hne, hbar⟩ := h dev List.mem_cons_self
    refine ⟨joined devList, ?_⟩
    have htok := CString.nextToken_cons hne hbar (joined devList)
    simpa [nthToken, joined] using htok
  | succ k ih =>
    cases devList with
    | nil => simp at hk
    | cons first devList =>
      obtain ⟨hne, hbar⟩ := h first List.mem_cons_self
      have htok := CString.nextToken_cons hne hbar (joined devList)
      have hjoin : joined (first :: devList) = first.valueList ++ '|' :: joined devList := by
        simp [joined]
      rw [hjoin, nthToken, htok]
      exact ih (fun d hd => h d (List.mem_cons_of_mem _ hd)) hk

theorem runItems_callSetFuncs (agent : Agent σ) (items : List Item) (msg : Text) (w : σ)
    (hitem : ∀ r ∈ (callSetFuncs agent items w).1, (resultText r).length < 128)
    (htext : (msg ++ replyText (callSetFuncs agent items w).1).length < 1024) :
    runItems agent (items.map fun item => (item.key, some item.value)) (msg, w) =
      some (msg ++ replyText (callSetFuncs agent items w).1, (callSetFuncs agent items w).2) := by
  induction items generalizing msg w with
  | nil => simp [callSetFuncs, replyText]
  | cons item items ih =>
    rw [List.map_cons, runItems_cons]
    cases hf : (agent.find item.key).bind DatainfoFunc.setFunc with
    | none =>
      simp only [callSetFuncs, hf] at hitem htext ⊢
      simp only [runItem, hf, Option.bind_some]
      exact ih msg w hitem htext
    | some set =>
      simp only [callSetFuncs, hf] at hitem htext ⊢
      have hfirst := hitem _ List.mem_cons_self
      have hreply : ∀ rs, replyText ((item.key, (set item.value w).1) :: rs) =
          resultText (item.key, (set item.value w).1) ++ replyText rs := fun rs => rfl
      have hfits : (msg ++ resultText (item.key, (set item.value w).1)).length < 1024 := by
        rw [hreply] at htext
        simp only [List.length_append] at htext ⊢
        omega
      have happend : appendResult msg item.key (set item.value w).1 =
          some (msg ++ resultText (item.key, (set item.value w).1)) :=
        if_pos ⟨hfirst, hfits⟩
      simp only [runItem, hf, Option.bind_eq_bind, Option.bind_some, happend]
      rw [ih _ _ (fun r hr => hitem r (List.mem_cons_of_mem _ hr))
        (by rw [hreply] at htext; simpa using htext), hreply, List.append_assoc]

theorem callSetFuncs_keys (agent : Agent σ) (items : List Item) (w : σ) {r : Text × BitVec 32}
    (hr : r ∈ (callSetFuncs agent items w).1) : ∃ item ∈ items, r.1 = item.key := by
  induction items generalizing w with
  | nil => simp [callSetFuncs] at hr
  | cons item items ih =>
    cases hf : (agent.find item.key).bind DatainfoFunc.setFunc with
    | none =>
      simp only [callSetFuncs, hf] at hr
      obtain ⟨item', hi, he⟩ := ih w hr
      exact ⟨item', List.mem_cons_of_mem _ hi, he⟩
    | some set =>
      simp only [callSetFuncs, hf] at hr
      rcases List.mem_cons.mp hr with rfl | hr
      · exact ⟨item, List.mem_cons_self, rfl⟩
      · obtain ⟨item', hi, he⟩ := ih _ hr
        exact ⟨item', List.mem_cons_of_mem _ hi, he⟩

theorem splitReply_replyText {results : List (Text × BitVec 32)}
    (h : ∀ r ∈ results, ':' ∉ r.1 ∧ ';' ∉ r.1) :
    splitReply (replyText results) = results.map fun r => (r.1, r.2.toInt) := by
  induction results with
  | nil => rfl
  | cons r results ih =>
    obtain ⟨hcolon, hsemi⟩ := h r List.mem_cons_self
    have hnum : ';' ∉ formatInt r.2.toInt := CString.not_mem_formatInt _ rfl (by decide)
    have hnum' : ':' ∉ formatInt r.2.toInt := CString.not_mem_formatInt _ rfl (by decide)
    have hpiece : ';' ∉ r.1 ++ ':' :: formatInt r.2.toInt := by simp [hsemi, hnum]
    have hcut : replyText (r :: results) =
        (r.1 ++ ':' :: formatInt r.2.toInt) ++ ';' :: replyText results := by
      simp [replyText, resultText]
    have hsplit : (r.1 ++ ':' :: formatInt r.2.toInt).splitOn ':' = [r.1, formatInt r.2.toInt] := by
      rw [List.splitOn_append_cons_self_of_not_mem hcolon, List.splitOn_eq_singleton hnum']
    have hrest := ih fun r' hr' => h r' (List.mem_cons_of_mem _ hr')
    rw [splitReply] at hrest ⊢
    rw [hcut, CString.pieces_append_delim, CString.pieces_single hpiece, if_neg (by simp),
      List.filterMap_append, hrest]
    simp [hsplit, CString.atoi_formatInt]

theorem findIdx?_of_nodup {ids : List ℕ} (hd : ids.Nodup) {i id : ℕ} (hi : ids[i]? = some id) :
    ids.findIdx? (· == id) = some i := by
  obtain ⟨hlt, hid⟩ := List.getElem?_eq_some_iff.mp hi
  rw [List.findIdx?_eq_some_iff_getElem]
  refine ⟨hlt, by simp [hid], fun j hj he => ?_⟩
  have heq : ids[j] = ids[i] := by
    rw [hid]
    simpa using he
  have hji := (List.Nodup.getElem_inj_iff hd).mp heq
  omega

theorem nul_not_mem_joined {settings : List Settings} :
    nul ∉ joined (settings.map Settings.entry) := by
  simp only [joined, List.flatMap_map, List.mem_flatMap, not_exists, not_and]
  intro s _ hm
  rcases List.mem_append.mp hm with hm | hm
  · exact not_mem_valueList s.trailing s.items (Or.inr rfl) hm
  · simp [nul] at hm

theorem setBranch_items (agent : Agent σ) (type : Idl.DataInfoType) {msg : Text} (hn : nul ∉ msg)
    {k : ℕ} {items : List Item}
    (hview : viewedItems type msg k = some (items.map fun item => (item.key, some item.value)))
    (w : σ) (hfits : ReplyFits (callSetFuncs agent items w).1) :
    setBranch agent type msg k w =
      some (replyText (callSetFuncs agent items w).1, (callSetFuncs agent items w).2) := by
  rw [setBranch_eq agent type hn, hview, Option.bind_some,
    runItems_callSetFuncs agent items [] w hfits.item (by simpa using hfits.text)]
  rfl

/-- For proper settings of devices with distinct IDs, the agent at position `i` calls the set
functions of its own items with their values and answers with their results, which can be read
back from the reply. Its value list alone, sent to all devices, does the same. -/
theorem set_round_trip {settings : List Settings} (hids : (settings.map Settings.deviceID).Nodup)
    {i : ℕ} {s : Settings} (hi : settings[i]? = some s) {randomSeq : ℕ}
    {req : Idl.DataInfoRequest}
    (hreq : setInfoRequest (settings.map Settings.entry) randomSeq = some req)
    {agent : Agent σ} (hid : agent.myid = s.deviceID) (w : σ)
    (hfits : ReplyFits (callSetFuncs agent s.items w).1) :
    let (results, w') := callSetFuncs agent s.items w
    (foundIdx agent req = some i ∧
      handle agent req i w = some (some (replyText results, []), w')) ∧
    splitReply (replyText results) = results.map (fun r => (r.1, r.2.toInt)) ∧
    ∀ idList seq, agent.myid ∈ idList →
      let same := setInfoWithSameValueRequest idList s.entry.valueList seq
      ∃ j, foundIdx agent same = some j ∧
        handle agent same j w = some (some (replyText results, []), w') := by
  have hreq' : req = ⟨settings.map Settings.deviceID, .set, randomSeq,
      joined (settings.map Settings.entry), []⟩ := by
    simp only [setInfoRequest, setInfoBuffer_eq] at hreq
    split at hreq
    · rw [← Option.some.inj hreq, List.map_map]
      rfl
    · simp at hreq
  subst hreq'
  have hentries : ∀ dev ∈ settings.map Settings.entry,
      dev.valueList ≠ [] ∧ '|' ∉ dev.valueList := by
    intro dev hdev
    obtain ⟨t, -, rfl⟩ := List.mem_map.mp hdev
    exact ⟨valueList_ne t.trailing t.nonempty, not_mem_valueList _ _ (Or.inl rfl)⟩
  have hread : ∀ behind, readItems behind s.entry.valueList =
      some (s.items.map fun item => (item.key, some item.value)) :=
    readItems_valueList s.trailing s.nonempty
  refine ⟨⟨?_, ?_⟩, ?_, ?_⟩
  · apply findIdx?_of_nodup hids
    simp [hi, hid]
  · obtain ⟨rest, hseg⟩ := nthToken_joined hentries
      (show (settings.map Settings.entry)[i]? = some s.entry by simp [hi])
    have hview : viewedItems .set (joined (settings.map Settings.entry)) i =
        some (s.items.map fun item => (item.key, some item.value)) := by
      simp only [viewedItems, if_true, hseg, Option.bind_some, hread]
    simp only [handle, setBranch_items agent .set nul_not_mem_joined hview w hfits, Option.map_some]
  · apply splitReply_replyText
    intro r hr
    obtain ⟨item, -, he⟩ := callSetFuncs_keys agent s.items w hr
    rw [he]
    exact ⟨item.not_mem_key (Or.inl rfl), item.not_mem_key (Or.inr (Or.inl rfl))⟩
  · intro idList seq hmem
    have hview : ∀ j, viewedItems .setSameValue s.entry.valueList j =
        some (s.items.map fun item => (item.key, some item.value)) := by
      intro j
      simp only [viewedItems, reduceCtorEq, if_false, hread]
    have hnul : nul ∉ s.entry.valueList := not_mem_valueList _ _ (Or.inr rfl)
    cases hj : foundIdx agent (setInfoWithSameValueRequest idList s.entry.valueList seq) with
    | none =>
      rw [AgentReplies.foundIdx_none_iff] at hj
      simp only [AgentReplies.addressed, setInfoWithSameValueRequest] at hj
      simp [hmem] at hj
    | some j =>
      refine ⟨j, hj, ?_⟩
      simp only [handle, setInfoWithSameValueRequest,
        setBranch_items agent .setSameValue hnul (hview j) w hfits, Option.map_some]

/-- Two devices. The second has an item with an empty value, one without a set function and one
whose value has a colon; its set function writes down the values and counts them. -/
theorem set_round_trip_two_devices :
    let first : Settings := ⟨1,
      [⟨['a'], ['1'], by simp, by simp [nul], by simp [nul]⟩], false, by simp⟩
    let second : Settings := ⟨2,
      [⟨['a'], [], by simp, by simp [nul], by simp [nul]⟩,
        ⟨['b'], ['5'], by simp, by simp [nul], by simp [nul]⟩,
        ⟨['a'], ['x', ':', 'y'], by simp, by simp [nul], by simp [nul]⟩], true, by simp⟩
    let agent : Agent (List Text) := ⟨2,
      [⟨['a'], none, some fun v w => (BitVec.ofNat 32 w.length, w ++ [v])⟩, ⟨['b'], none, none⟩],
      [], 1024, fun _ _ _ => none, fun _ _ => none⟩
    ∃ req, setInfoRequest [first.entry, second.entry] 7 = some req ∧
      foundIdx agent req = some 1 ∧
      handle agent req 1 [] =
        some (some (['a', ':', '0', ';', 'a', ':', '1', ';'], []), [[], ['x', ':', 'y']]) := by
  intro first second agent
  have hfit : JoinedFits ([first, second].map Settings.entry) := by decide
  have hsome : (setInfoRequest ([first, second].map Settings.entry) 7).isSome := by
    rw [setInfoRequest, setInfoBuffer_eq, if_pos hfit]
    rfl
  obtain ⟨req, hreq⟩ := Option.isSome_iff_exists.mp hsome
  have hfits : ReplyFits (callSetFuncs agent second.items []).1 := ⟨by decide, by decide⟩
  have h := @set_round_trip _ [first, second] (by decide) 1 second rfl 7 _ hreq agent rfl [] hfits
  exact ⟨req, hreq, h.1⟩

end SetRoundTrip
