import RmtLibrary.SetRoundTrip

/-! # Isolation between the devices of one SET call

An agent finds its settings by counting the pieces between bars, and empty pieces do not count.
So another device's value list can shift what an agent reads, and does not only if the pieces
the two calls hold at its position read alike. -/
namespace SetIsolation

open CString (Text nul nthToken formatInt)
open DatainfoAgent
open DatainfoServer
open SetItems
open SetRoundTrip (joined JoinedFits)

variable {σ : Type}

def handleSet (agent : Agent σ) (devList : List DataInfo) (randomSeq : ℕ) (w : σ) :
    Option (Option (Text × List UInt8) × σ) := do
  let req ← setInfoRequest devList randomSeq
  let k ← foundIdx agent req
  handle agent req k w

/-- Whatever functions the agent has, both calls make the same calls of them, on any world, and
are answered alike. -/
def SameBehaviour (devList devList' : List DataInfo) (id : ℕ) : Prop :=
  ∀ (σ : Type) (agent : Agent σ) (w : σ) (seq seq' : ℕ), agent.myid = id →
    ∃ out, handleSet agent devList seq w = some out ∧ handleSet agent devList' seq' w = some out

/-- The items in the piece numbered `k` of the joined text, if that fits its buffer. -/
def segmentItems (devList : List DataInfo) (k : ℕ) : Option (List (Text × Option Text)) :=
  if JoinedFits devList then viewedItems .set (joined devList) k else none

structure FitsAnyReply (keys : List Text) : Prop where
  item : ∀ key ∈ keys, key.length + 13 < 128
  text : (keys.map fun key => key.length + 13).sum < 1024

/-- The pieces numbered `k` of both joined texts hold the same items, all of them readable. -/
def ReadAlike (devList devList' : List DataInfo) (k : ℕ) : Prop :=
  ∃ items : List (Text × Text), FitsAnyReply (items.map Prod.fst) ∧
    segmentItems devList k = some (items.map fun item => (item.1, some item.2)) ∧
    segmentItems devList' k = some (items.map fun item => (item.1, some item.2))

theorem handleSet_eq {agent : Agent σ} {devList : List DataInfo}
    (hids : (devList.map DataInfo.deviceID).Nodup) {k : ℕ}
    (hk : (devList.map DataInfo.deviceID)[k]? = some agent.myid)
    (hn : ∀ dev ∈ devList, nul ∉ dev.valueList) (seq : ℕ) (w : σ) :
    handleSet agent devList seq w = (segmentItems devList k).bind fun items =>
      (runItems agent items ([], w)).map fun r => (some (r.1, []), r.2) := by
  have hjoined : nul ∉ joined devList := by
    simp only [joined, List.mem_flatMap, not_exists, not_and]
    intro dev hdev hm
    rcases List.mem_append.mp hm with hm | hm
    · exact hn dev hdev hm
    · simp [nul] at hm
  have hfound := SetRoundTrip.findIdx?_of_nodup hids hk
  by_cases hfit : JoinedFits devList
  · simp only [handleSet, setInfoRequest, SetRoundTrip.setInfoBuffer_eq, if_pos hfit, foundIdx,
      hfound, handle, setBranch_eq agent .set hjoined, segmentItems, Option.map_some,
      Option.bind_eq_bind, Option.bind_some, Option.map_bind]
    rfl
  · simp only [handleSet, setInfoRequest, SetRoundTrip.setInfoBuffer_eq, if_neg hfit,
      segmentItems, Option.map_none, Option.bind_eq_bind, Option.bind_none]

theorem formatInt_length (r : BitVec 32) : (formatInt r.toInt).length ≤ 11 := by
  have hlow : -2 ^ 31 ≤ r.toInt := BitVec.le_toInt r
  have hhigh : r.toInt < 2 ^ 31 := BitVec.toInt_lt
  cases hr : r.toInt with
  | ofNat n =>
    have hn : n < 10 ^ 11 := by
      rw [hr] at hhigh
      simp only [Int.ofNat_eq_natCast] at hhigh
      omega
    exact (Nat.length_toDigits_le_iff (by decide) (by decide)).mpr hn
  | negSucc n =>
    have hn : n + 1 < 10 ^ 10 := by
      rw [hr] at hlow
      omega
    have hlen := (Nat.length_toDigits_le_iff (b := 10) (by decide) (by decide)).mpr hn
    simp only [formatInt, List.length_cons]
    omega

theorem appendResult_fits (msg : Text) {key : Text} (result : BitVec 32)
    (hkey : key.length + 13 < 128)
    (hmsg : msg.length + (key.length + 13) < 1024) :
    ∃ msg', appendResult msg key result = some msg' ∧
      msg'.length ≤ msg.length + (key.length + 13) := by
  have hnum := formatInt_length result
  refine ⟨_, if_pos ?_, ?_⟩
  · simp only [List.length_append, List.length_cons, List.length_nil]
    omega
  · simp only [List.length_append, List.length_cons, List.length_nil]
    omega

theorem runItems_fits (agent : Agent σ) {items : List (Text × Text)} {msg : Text}
    (hitem : ∀ item ∈ items, item.1.length + 13 < 128)
    (htext : msg.length + (items.map fun item => item.1.length + 13).sum < 1024) (w : σ) :
    ∃ out, runItems agent (items.map fun item => (item.1, some item.2)) (msg, w) = some out := by
  induction items generalizing msg w with
  | nil => exact ⟨_, rfl⟩
  | cons item items ih =>
    simp only [List.map_cons, List.sum_cons] at htext
    have hrest : ∀ item ∈ items, item.1.length + 13 < 128 :=
      fun item hi => hitem item (List.mem_cons_of_mem _ hi)
    simp only [List.map_cons, runItems_cons, runItem]
    cases (agent.find item.1).bind DatainfoFunc.setFunc with
    | none => exact ih hrest (by omega) w
    | some set =>
      obtain ⟨msg', happend, hlen⟩ := appendResult_fits msg (set item.2 w).1
        (hitem item List.mem_cons_self) (by omega)
      simp only [Option.bind_eq_bind, Option.bind_some, happend]
      exact ih hrest (by omega) _

def recordingAgent (id : ℕ) (keys : List Text) : Agent (List (Text × Text)) :=
  ⟨id, keys.map fun key => ⟨key, none, some fun v w => (BitVec.intMin 32, w ++ [(key, v)])⟩,
    [], 0, fun _ _ _ => none, fun _ _ => none⟩

theorem recordingAgent_find (id : ℕ) {keys : List Text} {key : Text} (hk : key ∈ keys) :
    ((recordingAgent id keys).find key).bind DatainfoFunc.setFunc =
      some fun v w => (BitVec.intMin 32, w ++ [(key, v)]) := by
  induction keys with
  | nil => simp at hk
  | cons first keys ih =>
    by_cases he : first = key
    · simp [recordingAgent, Agent.find, he]
    · have hk' : key ∈ keys := by
        rcases List.mem_cons.mp hk with rfl | hk'
        · exact absurd rfl he
        · exact hk'
      have hskip : (recordingAgent id (first :: keys)).find key =
          (recordingAgent id keys).find key := by
        simp [recordingAgent, Agent.find, he]
      rw [hskip, ih hk']

theorem appendResult_intMin {msg key msg' : Text}
    (h : appendResult msg key (BitVec.intMin 32) = some msg') :
    key.length + 13 < 128 ∧ msg'.length < 1024 ∧
      msg'.length = msg.length + (key.length + 13) := by
  have hnum : (formatInt (BitVec.intMin 32).toInt).length = 11 := by decide
  simp only [appendResult] at h
  split at h
  · next hbound =>
    have hmsg := congrArg List.length (Option.some.inj h)
    simp only [List.length_append, List.length_cons, List.length_nil, hnum] at hbound hmsg
    omega
  · simp at h

theorem runItems_recordingAgent {id : ℕ} {keys : List Text} {items : List (Text × Option Text)}
    (hk : ∀ item ∈ items, item.1 ∈ keys) {msg msg' : Text} {w w' : List (Text × Text)}
    (h : runItems (recordingAgent id keys) items (msg, w) = some (msg', w')) :
    ∃ seen : List (Text × Text), w' = w ++ seen ∧
      items = seen.map (fun item => (item.1, some item.2)) ∧
      (∀ item ∈ seen, item.1.length + 13 < 128) ∧
      msg'.length = msg.length + (seen.map fun item => item.1.length + 13).sum ∧
      (msg.length < 1024 → msg'.length < 1024) := by
  induction items generalizing msg w with
  | nil =>
    obtain ⟨rfl, rfl⟩ := Prod.mk.inj (Option.some.inj h)
    exact ⟨[], by simp⟩
  | cons item items ih =>
    obtain ⟨key, value⟩ := item
    rw [runItems_cons, runItem, recordingAgent_find id (hk _ List.mem_cons_self)] at h
    cases value with
    | none => simp at h
    | some value =>
      simp only [Option.bind_eq_bind, Option.bind_some] at h
      cases ha : appendResult msg key (BitVec.intMin 32) with
      | none => simp [ha] at h
      | some msg₁ =>
        simp only [ha, Option.bind_some] at h
        obtain ⟨seen, hw, hitems, hfit, hlen, htext⟩ :=
          ih (fun item hi => hk item (List.mem_cons_of_mem _ hi)) h
        obtain ⟨hkey, hmsg, hmsg₁⟩ := appendResult_intMin ha
        refine ⟨(key, value) :: seen, by simp [hw], by simp [hitems], ?_, ?_, ?_⟩
        · intro item hi
          rcases List.mem_cons.mp hi with rfl | hi
          · exact hkey
          · exact hfit item hi
        · simp only [List.map_cons, List.sum_cons]
          omega
        · intro _
          exact htext (by omega)

/-- For two SET calls with the same devices in the same order, the device at position `k`
behaves alike under both, whatever functions it has, if and only if the pieces it finds at its
position hold the same readable items and no reply to them can outgrow its buffer. -/
theorem same_behaviour_iff {devList devList' : List DataInfo}
    (hids : (devList.map DataInfo.deviceID).Nodup)
    (hsame : devList'.map DataInfo.deviceID = devList.map DataInfo.deviceID) {k id : ℕ}
    (hk : (devList.map DataInfo.deviceID)[k]? = some id)
    (hn : ∀ dev ∈ devList, nul ∉ dev.valueList) (hn' : ∀ dev ∈ devList', nul ∉ dev.valueList) :
    SameBehaviour devList devList' id ↔ ReadAlike devList devList' k := by
  have hids' : (devList'.map DataInfo.deviceID).Nodup := hsame ▸ hids
  constructor
  · intro h
    -- a first agent shows that both pieces exist, a second one what they hold
    obtain ⟨out, hout, hout'⟩ := h _ (recordingAgent id []) [] 0 0 rfl
    rw [handleSet_eq hids hk hn] at hout
    rw [handleSet_eq hids' (hsame ▸ hk) hn'] at hout'
    obtain ⟨items, hitems, -⟩ := Option.bind_eq_some_iff.mp hout
    obtain ⟨items', hitems', -⟩ := Option.bind_eq_some_iff.mp hout'
    let keys := items.map Prod.fst ++ items'.map Prod.fst
    obtain ⟨rec, hrec, hrec'⟩ := h _ (recordingAgent id keys) [] 0 0 rfl
    rw [handleSet_eq hids hk hn, hitems, Option.bind_some, Option.map_eq_some_iff] at hrec
    rw [handleSet_eq hids' (hsame ▸ hk) hn', hitems', Option.bind_some,
      Option.map_eq_some_iff] at hrec'
    obtain ⟨⟨msg, log⟩, hrun, rfl⟩ := hrec
    obtain ⟨⟨msg', log'⟩, hrun', he⟩ := hrec'
    obtain ⟨-, rfl⟩ := Prod.mk.inj he
    have hkeys : ∀ item ∈ items, item.1 ∈ keys := fun item hi =>
      List.mem_append_left _ (List.mem_map_of_mem hi)
    have hkeys' : ∀ item ∈ items', item.1 ∈ keys := fun item hi =>
      List.mem_append_right _ (List.mem_map_of_mem hi)
    obtain ⟨seen, hlog, rfl, hitem, hlen, htext⟩ := runItems_recordingAgent hkeys hrun
    obtain ⟨seen', hlog', rfl, -, -, -⟩ := runItems_recordingAgent hkeys' hrun'
    simp only [List.nil_append] at hlog hlog'
    subst hlog
    subst hlog'
    refine ⟨log', ⟨?_, ?_⟩, hitems, hitems'⟩
    · simpa using hitem
    · have hshort := htext (by simp)
      rw [hlen] at hshort
      simpa [Function.comp_def] using hshort
  · rintro ⟨items, hfit, hitems, hitems'⟩ σ agent w seq seq' rfl
    have hitem : ∀ item ∈ items, item.1.length + 13 < 128 := fun item hi =>
      hfit.item item.1 (List.mem_map_of_mem hi)
    have htext : ([] : Text).length + (items.map fun item => item.1.length + 13).sum < 1024 := by
      simpa [Function.comp_def] using hfit.text
    obtain ⟨out, hout⟩ := runItems_fits agent hitem htext w
    refine ⟨(some (out.1, []), out.2), ?_, ?_⟩
    · rw [handleSet_eq hids hk hn, hitems, Option.bind_some, hout]
      rfl
    · rw [handleSet_eq hids' (hsame ▸ hk) hn', hitems', Option.bind_some, hout]
      rfl

theorem segmentItems_of_single_pieces {devList : List DataInfo} {k : ℕ}
    {own : SetRoundTrip.Settings}
    (hk : devList[k]? = some own.entry)
    (hone : ∀ dev ∈ devList.take k, (CString.pieces '|' dev.valueList).length = 1)
    (hfit : JoinedFits devList) : segmentItems devList k =
      some ((own.items.map fun item => (item.key, item.value)).map
        fun item => (item.1, some item.2)) := by
  obtain ⟨hlt, hget⟩ := List.getElem?_eq_some_iff.mp hk
  have hsplit : devList = devList.take k ++ own.entry :: devList.drop (k + 1) := by
    rw [← hget, List.getElem_cons_drop, List.take_append_drop]
  have hbefore : ∀ (before : List DataInfo) (t : Text),
      (∀ dev ∈ before, (CString.pieces '|' dev.valueList).length = 1) →
      nthToken '|' before.length (joined before ++ t) = nthToken '|' 0 t := by
    intro before t h
    induction before with
    | nil => rfl
    | cons dev before ih =>
      have hskip := CString.nthToken_skip '|' before.length dev.valueList (joined before ++ t)
      rw [h dev List.mem_cons_self, Nat.add_comm] at hskip
      have hjoin : joined (dev :: before) ++ t =
          dev.valueList ++ '|' :: (joined before ++ t) := by simp [joined]
      rw [hjoin, List.length_cons, hskip]
      exact ih fun d hd => h d (List.mem_cons_of_mem _ hd)
  have hseg : nthToken '|' k (joined devList) =
      some (own.entry.valueList, some (joined (devList.drop (k + 1)))) := by
    have hlen : (devList.take k).length = k := List.length_take_of_le (Nat.le_of_lt hlt)
    have hjoin : joined devList = joined (devList.take k) ++
        (own.entry.valueList ++ '|' :: joined (devList.drop (k + 1))) := by
      conv_lhs => rw [hsplit]
      simp [joined]
    have h := hbefore (devList.take k)
      (own.entry.valueList ++ '|' :: joined (devList.drop (k + 1))) hone
    rw [hlen] at h
    rw [hjoin, h]
    exact CString.nextToken_cons (SetRoundTrip.valueList_ne _ own.nonempty)
      (SetRoundTrip.not_mem_valueList _ _ (Or.inl rfl)) _
  simp only [segmentItems, if_pos hfit, viewedItems, if_true, hseg, Option.bind_some]
  rw [SetRoundTrip.Settings.entry, SetRoundTrip.readItems_valueList _ own.nonempty]
  simp

/-- What the server's users do: in front of the device's own proper items, each value list is
one non-empty piece. What comes behind them then does not matter. -/
theorem readAlike_of_single_pieces {devList devList' : List DataInfo} {k : ℕ}
    {own : SetRoundTrip.Settings} (hk : devList[k]? = some own.entry)
    (hk' : devList'[k]? = some own.entry)
    (hone : ∀ dev ∈ devList.take k ++ devList'.take k,
      (CString.pieces '|' dev.valueList).length = 1)
    (hfit : JoinedFits devList) (hfit' : JoinedFits devList')
    (hreply : FitsAnyReply (own.items.map SetRoundTrip.Item.key)) :
    ReadAlike devList devList' k := by
  refine ⟨own.items.map fun item => (item.key, item.value), ?_, ?_, ?_⟩
  · simpa [Function.comp_def] using hreply
  · exact segmentItems_of_single_pieces hk (fun d hd => hone d (List.mem_append_left _ hd)) hfit
  · exact segmentItems_of_single_pieces hk' (fun d hd => hone d (List.mem_append_right _ hd)) hfit'

/-- The second of two devices is set to `a:1`, whatever the first is set to. -/
theorem same_behaviour_two_devices :
    SameBehaviour [⟨1, ['x', ':', '1']⟩, ⟨2, ['a', ':', '1']⟩] [⟨1, ['y']⟩, ⟨2, ['a', ':', '1']⟩]
      2 := by
  have halike : ReadAlike [⟨1, ['x', ':', '1']⟩, ⟨2, ['a', ':', '1']⟩]
      [⟨1, ['y']⟩, ⟨2, ['a', ':', '1']⟩] 1 :=
    @readAlike_of_single_pieces _ _ 1
      ⟨2, [⟨['a'], ['1'], by simp, by simp [nul], by simp [nul]⟩], false, by simp⟩ rfl rfl
      (by decide) (by decide) (by decide) ⟨by decide, by decide⟩
  apply (same_behaviour_iff ?_ ?_ ?_ ?_ ?_).mpr halike <;> decide

/-- An empty value list in front shifts the second device to the items of the third. -/
theorem empty_value_list_shifts :
    ¬ SameBehaviour [⟨1, ['x', ':', '1']⟩, ⟨2, ['a', ':', '1']⟩, ⟨3, ['b', ':', '1']⟩]
      [⟨1, []⟩, ⟨2, ['a', ':', '1']⟩, ⟨3, ['b', ':', '1']⟩] 2 := by
  intro h
  obtain ⟨out, hout, hout'⟩ := h _ (recordingAgent 2 [['a'], ['b']]) [] 0 0 rfl
  have hdiffer : handleSet (recordingAgent 2 [['a'], ['b']])
        [⟨1, ['x', ':', '1']⟩, ⟨2, ['a', ':', '1']⟩, ⟨3, ['b', ':', '1']⟩] 0 [] ≠
      handleSet (recordingAgent 2 [['a'], ['b']])
        [⟨1, []⟩, ⟨2, ['a', ':', '1']⟩, ⟨3, ['b', ':', '1']⟩] 0 [] := by decide
  exact hdiffer (hout.trans hout'.symm)

end SetIsolation
