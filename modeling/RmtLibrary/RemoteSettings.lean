import RmtLibrary.CallOrder
import RmtLibrary.GetReply
import RmtLibrary.SetReplies

/-! # Settings of a device

A device whose get functions report settings and whose set functions store them, seen through
the information calls. What a SET request leaves behind is what its accepted items say, a GET
request reports the settings and changes none, and an acknowledged write is what a later call
reads unless another request has written the key in between. -/
namespace RemoteSettings

open CallOrder
open CString (Text nul pieces)
open DatainfoAgent
open DatainfoServer
open GuardedExecution
open Idl (DataInfoType DataInfoRequest DataInfoReply)
open InfoCorrectness
open InfoProtocol
open ReplyCollection
open SequentialObject
open SetItems
open SetParsing (callsSetFunc)
open SetRoundTrip (Item Settings valueList splitReply)

variable {n : ℕ} {σ : Type} {agents : Fin n → Agent σ} {replyTimeout : ℤ} {world : Fin n → σ}
  {setting : σ → Text → Text}

/-- The functions the agent registers act on settings: a get function reports the one of its key,
a set function stores its text or, with another result than 0, leaves all as they are. -/
structure KeepsSettings (agent : Agent σ) (setting : σ → Text → Text) : Prop where
  get : ∀ f ∈ agent.datainfoFuncMaps, ∀ get, f.getFunc = some get → ∀ w,
    (get w).1 = setting w f.key ∧ setting (get w).2 = setting w
  set : ∀ f ∈ agent.datainfoFuncMaps, ∀ set, f.setFunc = some set → ∀ value w,
    setting (set value w).2 =
      if (set value w).1 = 0 then Function.update (setting w) f.key value else setting w

structure Write where
  key : Text
  value : Text
  result : BitVec 32

def Write.acknowledged (write : Write) : Text × BitVec 32 := (write.key, write.result)

def store (settings : Text → Text) (writes : List Write) : Text → Text :=
  writes.foldl (fun settings write =>
    if write.result = 0 then Function.update settings write.key write.value else settings) settings

theorem store_cons (settings : Text → Text) (write : Write) (writes : List Write) :
    store settings (write :: writes) = store (if write.result = 0 then
      Function.update settings write.key write.value else settings) writes := rfl

theorem store_other {writes : List Write} {key : Text} (h : ∀ write ∈ writes, write.key ≠ key)
    (settings : Text → Text) : store settings writes key = settings key := by
  induction writes generalizing settings with
  | nil => rfl
  | cons write writes ih =>
    have hne := h write List.mem_cons_self
    rw [store_cons, ih fun write hw => h write (List.mem_cons_of_mem _ hw)]
    split
    · exact Function.update_of_ne hne.symm _ _
    · rfl

theorem store_same {writes : List Write} {key value : Text}
    (hvalue : ∀ write ∈ writes, write.key = key → write.value = value) {settings : Text → Text}
    (h : settings key = value ∨ ∃ write ∈ writes, write.key = key ∧ write.result = 0) :
    store settings writes key = value := by
  induction writes generalizing settings with
  | nil =>
    rcases h with h | ⟨write, hw, -⟩
    · exact h
    · cases hw
  | cons write writes ih =>
    rw [store_cons]
    apply ih fun later hl => hvalue later (List.mem_cons_of_mem _ hl)
    rcases h with h | ⟨accepted, hmem, hkey, hok⟩
    · left
      split
      · by_cases hk : write.key = key
        · rw [hk, Function.update_self]
          exact hvalue write List.mem_cons_self hk
        · rw [Function.update_of_ne (Ne.symm hk)]
          exact h
      · exact h
    · rcases List.mem_cons.mp hmem with rfl | hlater
      · left
        rw [if_pos hok, hkey, Function.update_self]
        exact hvalue accepted List.mem_cons_self hkey
      · exact .inr ⟨accepted, hlater, hkey, hok⟩

theorem find_mem {agent : Agent σ} {key : Text} {f : DatainfoFunc σ}
    (h : agent.find key = some f) : f ∈ agent.datainfoFuncMaps ∧ f.key = key :=
  ⟨List.mem_of_find?_eq_some h, by simpa using List.find?_some h⟩

/-- The branch calls the set functions for its items in turn, reports each result and leaves the
settings that these calls store. -/
theorem runItems_writes {agent : Agent σ} (hkeeps : KeepsSettings agent setting)
    {items : List (Text × Option Text)} {msg msg' : Text} {w w' : σ}
    (h : runItems agent items (msg, w) = some (msg', w')) :
    ∃ writes : List Write,
      writes.map (fun write => (write.key, some write.value)) =
        items.filter (fun item => callsSetFunc agent item.1) ∧
      msg' = msg ++ SetRoundTrip.replyText (writes.map Write.acknowledged) ∧
      setting w' = store (setting w) writes ∧ (msg.length < 1024 → msg'.length < 1024) := by
  induction items generalizing msg w with
  | nil =>
    obtain ⟨rfl, rfl⟩ := Prod.mk.inj (Option.some.inj h)
    exact ⟨[], rfl, by simp [SetRoundTrip.replyText], rfl, id⟩
  | cons item items ih =>
    obtain ⟨key, value⟩ := item
    rw [runItems_cons] at h
    obtain ⟨⟨msg₁, w₁⟩, hitem, hrest⟩ := Option.bind_eq_some_iff.mp h
    obtain ⟨writes, hwrites, hmsg, hsetting, hlen⟩ := ih hrest
    cases hset : (agent.find key).bind DatainfoFunc.setFunc with
    | none =>
      simp only [runItem, hset, Option.some.injEq, Prod.mk.injEq] at hitem
      obtain ⟨rfl, rfl⟩ := hitem
      have hno : callsSetFunc agent key = false := by simp [callsSetFunc, hset]
      rw [List.filter_cons_of_neg (by simp [hno])]
      exact ⟨writes, hwrites, hmsg, hsetting, hlen⟩
    | some set =>
      have hyes : callsSetFunc agent key = true := by simp [callsSetFunc, hset]
      simp only [runItem, hset, Option.bind_eq_bind, Option.bind_eq_some_iff] at hitem
      obtain ⟨value', rfl, text, happend, hitem⟩ := hitem
      obtain ⟨rfl, rfl⟩ := Prod.mk.inj (Option.some.inj hitem)
      obtain ⟨f, hfind, hf⟩ := Option.bind_eq_some_iff.mp hset
      obtain ⟨hmem, hkey⟩ := find_mem hfind
      rw [SetReplies.appendResult_eq] at happend
      split at happend
      · next hfits =>
        obtain rfl := Option.some.inj happend
        refine ⟨⟨key, value', (set value' w).1⟩ :: writes, ?_, ?_, ?_, fun _ => hlen hfits.2⟩
        · rw [List.filter_cons_of_pos (by simpa using hyes), List.map_cons, hwrites]
        · rw [hmsg]
          simp [SetRoundTrip.replyText, Write.acknowledged]
        · rw [hsetting, store_cons, hkeeps.set f hmem set hf, hkey]
      · cases happend

theorem setBranch_writes {agent : Agent σ} (hkeeps : KeepsSettings agent setting)
    {type : DataInfoType} {msg text : Text} (hn : nul ∉ msg) {k : ℕ} {w w' : σ}
    (h : setBranch agent type msg k w = some (text, w')) :
    ∃ items writes, viewedItems type msg k = some items ∧
      writes.map (fun write => (write.key, some write.value)) =
        items.filter (fun item => callsSetFunc agent item.1) ∧
      text = SetRoundTrip.replyText (writes.map Write.acknowledged) ∧
      setting w' = store (setting w) writes ∧ text.length < 1024 := by
  rw [setBranch_eq agent type hn] at h
  obtain ⟨items, hview, hrun⟩ := Option.bind_eq_some_iff.mp h
  obtain ⟨writes, hwrites, htext, hsetting, hlen⟩ := runItems_writes hkeeps hrun
  exact ⟨items, writes, hview, hwrites, htext, hsetting, hlen (by decide)⟩

/-- What a device with these settings reports for one of its entries. A value ends at a
terminator inside it. -/
def Reported (agent : Agent σ) (settings : Text → Text) (pair : Text × Text) : Prop :=
  ∃ f, agent.find pair.1 = some f ∧ pair.2 =
    if f.getFunc.isSome then (settings pair.1).takeWhile (· != nul) else []

theorem takeWhile_terminated (t rest : Text) :
    (t ++ nul :: rest).takeWhile (· != nul) = t.takeWhile (· != nul) := by
  induction t with
  | nil => simp
  | cons c t ih =>
    rw [List.cons_append, List.takeWhile_cons, List.takeWhile_cons, ih]

theorem cstr_strncpy_zeroed {written t : Text} {size : ℕ} (hlen : written.length < size)
    (h : CString.cstr (CString.strncpy (List.replicate size nul) written size) 0 = some t) :
    t = written.takeWhile (· != nul) := by
  rw [CString.cstr] at h
  split at h
  · obtain ⟨m, hm⟩ : ∃ m, size - written.length = m + 1 := ⟨size - written.length - 1, by omega⟩
    rw [CString.strncpy, List.take_of_length_le (Nat.le_of_lt hlen), hm, List.replicate_succ,
      List.drop_zero, List.append_assoc, List.cons_append, takeWhile_terminated] at h
    exact (Option.some.inj h).symm
  · cases h

theorem getValue_reports {agent : Agent σ} (hkeeps : KeepsSettings agent setting) {key : Text}
    {f : DatainfoFunc σ} (hfind : agent.find key = some f) {w w' : σ} {value : Text}
    (h : getValue agent.datainfoValSize f w = some (value, w')) :
    Reported agent (setting w) (key, value) ∧ setting w' = setting w := by
  obtain ⟨hmem, hkey⟩ := find_mem hfind
  unfold getValue at h
  cases hget : f.getFunc with
  | none =>
    simp only [hget, Option.map_eq_some_iff, Prod.mk.injEq] at h
    obtain ⟨t, ht, rfl, rfl⟩ := h
    refine ⟨⟨f, hfind, ?_⟩, rfl⟩
    rw [CString.cstr] at ht
    split at ht
    · obtain rfl := Option.some.inj ht
      simp [hget]
    · cases ht
  | some get =>
    obtain ⟨hvalue, hkept⟩ := hkeeps.get f hmem get hget w
    simp only [hget] at h
    split at h
    · next hlen =>
      obtain ⟨t, ht, he⟩ := Option.map_eq_some_iff.mp h
      obtain ⟨rfl, rfl⟩ := Prod.mk.inj he
      refine ⟨⟨f, hfind, ?_⟩, hkept⟩
      rw [if_pos (by simp [hget]), ← hkey, ← hvalue]
      exact cstr_strncpy_zeroed hlen ht
    · cases h

theorem getKeys_reports {agent : Agent σ} (hkeeps : KeepsSettings agent setting)
    {keys : List Text} {acc acc' : ℕ × Text × σ}
    (h : keys.foldlM (GetReply.getText agent) acc = some acc') :
    ∃ pairs, acc'.2.1 = acc.2.1 ++ GetReply.replyText pairs ∧
      pairs.map Prod.fst = keys.filter (fun key => (agent.find key).isSome) ∧
      (∀ pair ∈ pairs, Reported agent (setting acc.2.2) pair) ∧
      setting acc'.2.2 = setting acc.2.2 := by
  induction keys generalizing acc with
  | nil =>
    obtain rfl := Option.some.inj h
    exact ⟨[], by simp, rfl, by simp, rfl⟩
  | cons key keys ih =>
    rw [List.foldlM_cons] at h
    obtain ⟨acc₁, hkey, hrest⟩ := Option.bind_eq_some_iff.mp h
    obtain ⟨pairs, htext, hkeys, hreported, hsetting⟩ := ih hrest
    cases hfind : agent.find key with
    | none =>
      simp only [GetReply.getText, hfind, Option.some.injEq] at hkey
      subst hkey
      refine ⟨pairs, htext, ?_, hreported, hsetting⟩
      rw [List.filter_cons_of_neg (by simp [hfind]), hkeys]
    | some f =>
      simp only [GetReply.getText, hfind, Option.bind_eq_bind, Option.bind_eq_some_iff] at hkey
      obtain ⟨⟨value, w₁⟩, hvalue, ⟨size, text⟩, happend, hkey⟩ := hkey
      obtain rfl := Option.some.inj hkey
      obtain ⟨hfirst, hkept⟩ := getValue_reports hkeeps hfind hvalue
      refine ⟨(key, value) :: pairs, ?_, ?_, ?_, ?_⟩
      · rw [htext, AgentReplies.appendValue_text happend]
        simp [GetReply.pairText]
      · rw [List.filter_cons_of_pos (by simp [hfind]), List.map_cons, hkeys]
      · intro pair hpair
        rcases List.mem_cons.mp hpair with rfl | hpair
        · exact hfirst
        · have hlater := hreported pair hpair
          rwa [hkept] at hlater
      · rw [hsetting, hkept]

theorem getBranch_reports {agent : Agent σ} (hkeeps : KeepsSettings agent setting) {msg text : Text}
    (hn : nul ∉ msg) {w w' : σ} (h : getBranch agent msg w = some (text, w')) :
    ∃ pairs, text = GetReply.replyText pairs ∧
      pairs.map Prod.fst = (pieces ';' msg).filter (fun key => (agent.find key).isSome) ∧
      (∀ pair ∈ pairs, Reported agent (setting w) pair) ∧ setting w' = setting w := by
  have hloop := CString.tokenLoop_pieces (d := ';') (by decide)
    (f := GetReply.getText agent) (GetReply.getStep_eq agent) hn [] []
    (Nat.lt_succ_self msg.length) (1024, [], w)
  simp only [getBranch, Option.bind_eq_bind, Option.bind_eq_some_iff] at h
  obtain ⟨⟨m, size, text', w₁⟩, hrun, h⟩ := h
  obtain ⟨rfl, rfl⟩ := Prod.mk.inj (Option.some.inj h)
  have hblock : (CString.ofText msg).length = msg.length.succ := by simp [CString.ofText]
  rw [hblock, CString.ofText] at hrun
  simp only [List.nil_append, List.length_nil, hrun, Option.map_some] at hloop
  obtain ⟨pairs, htext, hrest⟩ := getKeys_reports hkeeps hloop.symm
  exact ⟨pairs, by simpa using htext, hrest⟩

/-- The agent reads an item with the key from a SET request. -/
def Writes (agent : Agent σ) (key : Text) (req : DataInfoRequest) : Prop :=
  (req.type = .set ∨ req.type = .setSameValue) ∧ ∃ j items, foundIdx agent req = some j ∧
    viewedItems req.type req.msg j = some items ∧ key ∈ items.map Prod.fst

theorem asked_by_call {s : Network n σ}
    (h : Execution (step agents replyTimeout) FreshSeq (initial world) s) :
    ∀ req ∈ s.history.asked, ∃ call randomSeq, InfoCall.request randomSeq call = some req := by
  refine h.invariant (I := fun s => ∀ req ∈ s.history.asked,
    ∃ call randomSeq, InfoCall.request randomSeq call = some req) (by simp [initial]) ?_
  intro s e s' hall _ hstep
  cases e with
  | call call randomSeq block start =>
    simp only [step, beginCall] at hstep
    split at hstep
    · cases hstep
    · obtain ⟨req, hreq, rfl⟩ := Option.map_eq_some_iff.mp hstep
      intro req' hreq'
      rcases List.mem_cons.mp hreq' with rfl | hold
      · exact ⟨call, randomSeq, hreq⟩
      · exact hall req' hold
  | poll now =>
    obtain ⟨c, -, hpoll⟩ := Option.bind_eq_some_iff.mp hstep
    split at hpoll
    · obtain ⟨r, -, hpoll⟩ := Option.bind_eq_some_iff.mp hpoll
      obtain rfl := Option.some.inj hpoll
      exact hall
    · cases hpoll
  | ret =>
    obtain ⟨c, -, hret⟩ := Option.bind_eq_some_iff.mp hstep
    split at hret
    · cases hret
    · obtain rfl := Option.some.inj hret
      exact hall
  | agentUpdate i =>
    obtain ⟨r, -, hupdate⟩ := Option.bind_eq_some_iff.mp hstep
    obtain rfl := Option.some.inj hupdate
    exact hall
  | requestArrives i k =>
    obtain ⟨req, -, rfl⟩ := Option.map_eq_some_iff.mp hstep
    exact hall
  | replyArrives k =>
    obtain ⟨reply, -, rfl⟩ := Option.map_eq_some_iff.mp hstep
    exact hall
  | requestLost | requestWriterGone | replyLost | replyWriterGone | replyExpires =>
    obtain rfl := Option.some.inj hstep
    exact hall

theorem call_type {call : InfoCall} {randomSeq : ℕ} {req : DataInfoRequest}
    (h : call.request randomSeq = some req) :
    req.type = .get ∨ req.type = .set ∨ req.type = .setSameValue := by
  cases call with
  | getInfo idList keyList =>
    obtain rfl := Option.some.inj h
    exact .inl rfl
  | setInfo devList =>
    obtain ⟨buffer, -, rfl⟩ := Option.map_eq_some_iff.mp h
    exact .inr (.inl rfl)
  | setInfoWithSameValue idList valueList =>
    obtain rfl := Option.some.inj h
    exact .inr (.inr rfl)

theorem answer_get {agent : Agent σ} {req : DataInfoRequest} (ht : req.type = .get) {w w' : σ}
    {reply : DataInfoReply} (h : answer agent req w = some (reply, w')) :
    getBranch agent req.msg w = some (reply.msg, w') := by
  simp only [answer, handle, ht, Option.bind_eq_bind, Option.bind_eq_some_iff,
    Option.map_eq_some_iff] at h
  obtain ⟨j, -, ⟨result, w₁⟩, ⟨⟨text, w₂⟩, hbranch, he⟩, ⟨text', binary⟩, hresult, h⟩ := h
  obtain ⟨rfl, rfl⟩ := Prod.mk.inj he
  obtain ⟨rfl, rfl⟩ := Prod.mk.inj (Option.some.inj hresult)
  obtain ⟨rfl, rfl⟩ := Prod.mk.inj (Option.some.inj h)
  exact hbranch

theorem answer_set {agent : Agent σ} {req : DataInfoRequest}
    (ht : req.type = .set ∨ req.type = .setSameValue) {w w' : σ} {reply : DataInfoReply}
    (h : answer agent req w = some (reply, w')) : ∃ j, foundIdx agent req = some j ∧
      setBranch agent req.type req.msg j w = some (reply.msg, w') := by
  simp only [answer, Option.bind_eq_bind, Option.bind_eq_some_iff] at h
  obtain ⟨j, hj, ⟨result, w₁⟩, hhandle, ⟨text', binary⟩, hresult, h⟩ := h
  obtain ⟨rfl, rfl⟩ := Prod.mk.inj (Option.some.inj h)
  refine ⟨j, hj, ?_⟩
  rcases ht with ht | ht
  all_goals
    simp only [handle, ht, Option.map_eq_some_iff] at hhandle
    obtain ⟨⟨text, w₂⟩, hbranch, he⟩ := hhandle
    obtain ⟨rfl, rfl⟩ := Prod.mk.inj he
    obtain ⟨rfl, rfl⟩ := Prod.mk.inj (Option.some.inj hresult)
    rw [ht]
    exact hbranch

theorem answer_keeps {agent : Agent σ} (hkeeps : KeepsSettings agent setting)
    {req : DataInfoRequest} (hn : nul ∉ req.msg)
    (htype : req.type = .get ∨ req.type = .set ∨ req.type = .setSameValue) {key : Text}
    (hno : ¬ Writes agent key req) {w w' : σ} {reply : DataInfoReply}
    (h : answer agent req w = some (reply, w')) : setting w' key = setting w key := by
  rcases htype with ht | ht
  · obtain ⟨-, -, -, -, hsame⟩ := getBranch_reports hkeeps hn (answer_get ht h)
    rw [hsame]
  · obtain ⟨j, hj, hbranch⟩ := answer_set ht h
    obtain ⟨items, writes, hview, hwrites, -, hstored, -⟩ := setBranch_writes hkeeps hn hbranch
    rw [hstored]
    apply store_other
    rintro write hwrite rfl
    have hmem : (write.key, some write.value) ∈
        items.filter (fun item => callsSetFunc agent item.1) := by
      rw [← hwrites]
      exact List.mem_map_of_mem hwrite
    exact hno ⟨ht, j, items, hj, hview, List.mem_map_of_mem (List.mem_of_mem_filter hmem)⟩

/-- The items are the agent's own of `rmt_server_set_info`, or those that
`rmt_server_set_info_with_same_value` sends to all. -/
def AsksFor (agent : Agent σ) (items : List Item) (req : DataInfoRequest) : Prop :=
  (∃ (settings : List Settings) (randomSeq : ℕ), (settings.map Settings.deviceID).Nodup ∧
    setInfoRequest (settings.map Settings.entry) randomSeq = some req ∧
    ∃ s ∈ settings, s.deviceID = agent.myid ∧ s.items = items) ∨
  ∃ idList trailing randomSeq, items ≠ [] ∧
    req = setInfoWithSameValueRequest idList (valueList trailing items) randomSeq

theorem AsksFor.view {agent : Agent σ} {items : List Item} {req : DataInfoRequest}
    (h : AsksFor agent items req) {j : ℕ} (hj : foundIdx agent req = some j) :
    (req.type = .set ∨ req.type = .setSameValue) ∧ nul ∉ req.msg ∧
      viewedItems req.type req.msg j =
        some (items.map fun item => (item.key, some item.value)) := by
  rcases h with ⟨settings, randomSeq, hids, hreq, s, hs, hid, rfl⟩ |
    ⟨idList, trailing, randomSeq, hne, rfl⟩
  · obtain ⟨i, hi⟩ := List.getElem?_of_mem hs
    obtain ⟨buffer, hbuffer, rfl⟩ := Option.map_eq_some_iff.mp hreq
    rw [SetRoundTrip.setInfoBuffer_eq] at hbuffer
    split at hbuffer
    · obtain rfl := Option.some.inj hbuffer
      have hfound : ((settings.map Settings.entry).map DataInfo.deviceID).findIdx?
          (· == agent.myid) = some i := by
        rw [List.map_map]
        apply SetRoundTrip.findIdx?_of_nodup hids
        simp [hi, hid]
      obtain rfl : i = j := Option.some.inj (hfound.symm.trans hj)
      have hentries : ∀ dev ∈ settings.map Settings.entry,
          dev.valueList ≠ [] ∧ '|' ∉ dev.valueList := by
        intro dev hdev
        obtain ⟨t, -, rfl⟩ := List.mem_map.mp hdev
        exact ⟨SetRoundTrip.valueList_ne t.trailing t.nonempty,
          SetRoundTrip.not_mem_valueList _ _ (.inl rfl)⟩
      obtain ⟨rest, hseg⟩ := SetRoundTrip.nthToken_joined hentries
        (show (settings.map Settings.entry)[i]? = some s.entry by simp [hi])
      refine ⟨.inl rfl, SetRoundTrip.nul_not_mem_joined, ?_⟩
      simp only [viewedItems, if_true, hseg, Option.bind_some]
      exact SetRoundTrip.readItems_valueList s.trailing s.nonempty (some rest)
    · cases hbuffer
  · refine ⟨.inr rfl, SetRoundTrip.not_mem_valueList _ _ (.inr rfl), ?_⟩
    exact SetRoundTrip.readItems_valueList trailing hne none

/-- The device that acknowledges an item has its value, if the request has no other one for the
same key. -/
theorem answer_stores {agent : Agent σ} (hkeeps : KeepsSettings agent setting)
    {items : List Item} {req : DataInfoRequest} (hasks : AsksFor agent items req) {item : Item}
    (honly : ∀ other ∈ items, other.key = item.key → other.value = item.value) {w w' : σ}
    {reply : DataInfoReply} (h : answer agent req w = some (reply, w')) :
    reply.msg.length < 1024 ∧
      ((item.key, 0) ∈ splitReply reply.msg → setting w' item.key = item.value) := by
  obtain ⟨j, hj⟩ : ∃ j, foundIdx agent req = some j := by
    obtain ⟨j, hj, -⟩ := Option.bind_eq_some_iff.mp h
    exact ⟨j, hj⟩
  obtain ⟨htype, hn, hview⟩ := hasks.view hj
  obtain ⟨j', hj', hbranch⟩ := answer_set htype h
  obtain rfl : j = j' := Option.some.inj (hj.symm.trans hj')
  obtain ⟨read, writes, hread, hwrites, htext, hstored, hlen⟩ :=
    setBranch_writes hkeeps hn hbranch
  obtain rfl := Option.some.inj (hread.symm.trans hview)
  have hitem : ∀ write ∈ writes, ∃ other ∈ items,
      other.key = write.key ∧ other.value = write.value := by
    intro write hwrite
    have hmem : (write.key, some write.value) ∈
        writes.map (fun write => (write.key, some write.value)) := List.mem_map_of_mem hwrite
    rw [hwrites] at hmem
    obtain ⟨other, hother, he⟩ := List.mem_map.mp (List.mem_of_mem_filter hmem)
    obtain ⟨hkey, hvalue⟩ := Prod.mk.inj he
    exact ⟨other, hother, hkey, Option.some.inj hvalue⟩
  refine ⟨hlen, ?_⟩
  intro hack
  have hplain : ∀ r ∈ writes.map Write.acknowledged, ':' ∉ r.1 ∧ ';' ∉ r.1 := by
    intro r hr
    obtain ⟨write, hwrite, rfl⟩ := List.mem_map.mp hr
    obtain ⟨other, -, hkey, -⟩ := hitem write hwrite
    rw [Write.acknowledged, ← hkey]
    exact ⟨other.not_mem_key (.inl rfl), other.not_mem_key (.inr (.inl rfl))⟩
  rw [htext, SetRoundTrip.splitReply_replyText hplain, List.map_map] at hack
  obtain ⟨write, hwrite, he⟩ := List.mem_map.mp hack
  obtain ⟨hkey, hzero⟩ := Prod.mk.inj he
  rw [hstored]
  apply store_same
  · intro write' hwrite' hkey'
    obtain ⟨other, hother, hok, hov⟩ := hitem write' hwrite'
    rw [← hov]
    exact honly other hother (hok.trans hkey')
  · refine .inr ⟨write, hwrite, hkey, ?_⟩
    exact BitVec.toInt_inj.mp (hzero.trans (by simp))

theorem keys_distinct {s : Network n σ} (h : Invariant agents s) (i : Fin n) :
    (handledRequests s i).Nodup :=
  ((h.requests i).once.inside (List.sublist_append_left _ _).subperm).of_map

theorem entry_reply {s : Network n σ} (hinv : Invariant agents s)
    (hids : Function.Injective fun i => (agents i).myid) {r : InfoProtocol.Result}
    (hr : r ∈ s.history.results) {entry : ReplyEntry} (hentry : entry ∈ Result.entries r)
    {i : Fin n} (hid : entry.deviceID = (agents i).myid) {reply : DataInfoReply}
    (hreply : (r.req, reply) ∈ s.history.handled i) (hshort : reply.msg.length < configKeyStrLen) :
    CString.cstr entry.valueList 0 = some reply.msg := by
  obtain ⟨j, reply', hmem, -, hmyid, htext⟩ := (hinv.results r hr).texts entry hentry
  obtain rfl : j = i := hids (hmyid.symm.trans hid)
  have hsame := List.inj_on_of_nodup_map (keys_distinct hinv j) hmem hreply rfl
  obtain rfl := (Prod.mk.inj hsame).2
  exact htext hshort

/-- In every run: if a SET call returned with the acknowledgement of a device for an item, and a
GET call that returned later has an entry of the device, the entry reports the value of the item,
unless the device handled another request that writes the key in between. -/
theorem acknowledged_write_is_read {s : Network n σ}
    (hids : Function.Injective fun i => (agents i).myid)
    (h : Execution (step agents replyTimeout) FreshSeq (initial world) s)
    (hn : ∀ req ∈ s.history.asked, nul ∉ req.msg) {i : Fin n}
    (hkeeps : KeepsSettings (agents i) setting) {r₁ r₂ : InfoProtocol.Result}
    (horder : [r₂, r₁].Sublist s.history.results) {items : List Item}
    (hasks : AsksFor (agents i) items r₁.req) {item : Item}
    (honly : ∀ other ∈ items, other.key = item.key → other.value = item.value)
    {entry₁ : ReplyEntry} (hentry₁ : entry₁ ∈ Result.entries r₁)
    (hid₁ : entry₁.deviceID = (agents i).myid) {text : Text}
    (htext : CString.cstr entry₁.valueList 0 = some text) (hack : (item.key, 0) ∈ splitReply text)
    (hget : r₂.req.type = .get) (hkey : item.key ∈ pieces ';' r₂.req.msg)
    (hgetter : ∃ f, (agents i).find item.key = some f ∧ f.getFunc.isSome)
    {entry₂ : ReplyEntry} (hentry₂ : entry₂ ∈ Result.entries r₂)
    (hid₂ : entry₂.deviceID = (agents i).myid)
    (hbetween : ∀ req, [r₁.req, req, r₂.req].Sublist (handledRequests s i) →
      ¬ Writes (agents i) item.key req) :
    ∃ pairs, pairs.map Prod.fst =
        (pieces ';' r₂.req.msg).filter (fun key => ((agents i).find key).isSome) ∧
      (item.key, item.value) ∈ pairs ∧
      (∀ value, (item.key, value) ∈ pairs → value = item.value) ∧
      ((GetReply.replyText pairs).length < configKeyStrLen →
        CString.cstr entry₂.valueList 0 = some (GetReply.replyText pairs)) := by
  obtain ⟨hinv, ho⟩ := ordered_execution hids h
  have hr₁ : r₁ ∈ s.history.results := horder.subset (by simp)
  have hr₂ : r₂ ∈ s.history.results := horder.subset (by simp)
  -- the two requests are handled in the order of the calls
  have hasked : [r₂.req, r₁.req].Sublist s.history.asked := by
    obtain ⟨earlier, heq, hsub⟩ := ho.calls
    rw [heq]
    exact (horder.map _).trans (hsub.trans (List.sublist_append_right _ _))
  have hhas₁ : HasEntry agents r₁ i := List.mem_map.mpr ⟨entry₁, hentry₁, hid₁⟩
  have hhas₂ : HasEntry agents r₂ i := List.mem_map.mpr ⟨entry₂, hentry₂, hid₂⟩
  have hin₂ := handled_of_hasEntry hinv hids hr₂ hhas₂
  have hseq := ho.before r₁ hr₁ i hhas₁ r₂.req hin₂ hasked
  obtain ⟨l, hl, hmap⟩ := List.sublist_map_iff.mp hseq
  obtain ⟨p₁, l, rfl, hp₁, hmap⟩ := List.map_eq_cons_iff.mp hmap.symm
  obtain ⟨p₂, l, rfl, hp₂, hmap⟩ := List.map_eq_cons_iff.mp hmap
  obtain rfl := List.map_eq_nil_iff.mp hmap
  obtain ⟨front, mid, behind, hcut⟩ := exists_between hl
  obtain ⟨req₁, reply₁⟩ := p₁
  obtain ⟨req₂, reply₂⟩ := p₂
  obtain rfl : req₁ = r₁.req := hp₁
  obtain rfl : req₂ = r₂.req := hp₂
  have hmem₁ : (r₁.req, reply₁) ∈ s.history.handled i := hl.subset (by simp)
  have hmem₂ : (r₂.req, reply₂) ∈ s.history.handled i := hl.subset (by simp)
  have hlegal := ho.legal i
  rw [hcut] at hlegal
  obtain ⟨u₀, u₁, -, hanswer₁, hrest⟩ := hlegal.split
  obtain ⟨u₂, u₃, hmid, hanswer₂, -⟩ := hrest.split
  -- the device stored the value
  obtain ⟨hlen, hstores⟩ := answer_stores hkeeps hasks honly hanswer₁
  have hreply₁ := entry_reply hinv hids hr₁ hentry₁ hid₁ hmem₁
    (hlen.trans (by decide))
  obtain rfl : text = reply₁.msg := Option.some.inj (htext.symm.trans hreply₁)
  have hstored := hstores hack
  -- and has it still when it handles the GET request
  have hkept : setting u₂ item.key = setting u₁ item.key := by
    refine hmid.view_eq (fun u => setting u item.key) ?_
    intro p hp u u' hu
    have hhandled : p.1 ∈ handledRequests s i := by
      rw [handledRequests, hcut]
      exact List.mem_map_of_mem (by simp [hp])
    have hmade := (hinv.requests i).asked p.1 (List.mem_append_left _ hhandled)
    obtain ⟨call, randomSeq, hcall⟩ := asked_by_call h p.1 hmade
    refine answer_keeps hkeeps (hn _ hmade) (call_type hcall) (hbetween p.1 ?_) hu
    rw [handledRequests, hcut]
    have hsub : [(r₁.req, reply₁), p, (r₂.req, reply₂)].Sublist
        (front ++ (r₁.req, reply₁) :: (mid ++ (r₂.req, reply₂) :: behind)) :=
      List.sublist_append_of_sublist_right (.cons_cons _
        ((List.singleton_sublist.mpr hp).append (List.singleton_sublist.mpr List.mem_cons_self)))
    exact hsub.map Prod.fst
  have hn₂ : nul ∉ r₂.req.msg :=
    hn _ ((hinv.requests i).asked _ (List.mem_append_left _ hin₂))
  obtain ⟨pairs, hpairs, hkeys, hreported, -⟩ :=
    getBranch_reports hkeeps hn₂ (answer_get hget hanswer₂)
  obtain ⟨f, hf, hgetf⟩ := hgetter
  have hvalues : ∀ value, (item.key, value) ∈ pairs → value = item.value := by
    intro value hvalue
    obtain ⟨f', hf', hv⟩ := hreported _ hvalue
    obtain rfl : f = f' := Option.some.inj (hf.symm.trans hf')
    rw [if_pos hgetf, hkept, hstored] at hv
    have hplain : ∀ c ∈ item.value, (c != nul) = true := by
      intro c hc
      simpa using (item.value_plain c hc).2.2
    exact hv.trans (List.takeWhile_eq_self_iff.mpr hplain)
  refine ⟨pairs, hkeys, ?_, hvalues, ?_⟩
  · have hmem : item.key ∈ pairs.map Prod.fst := by
      rw [hkeys]
      exact List.mem_filter.mpr ⟨hkey, by simp [hf]⟩
    obtain ⟨⟨key, value⟩, hpair, rfl⟩ := List.mem_map.mp hmem
    obtain rfl := hvalues value hpair
    exact hpair
  · intro hshort
    rw [← hpairs] at hshort ⊢
    exact entry_reply hinv hids hr₂ hentry₂ hid₂ hmem₂ hshort

def keeper (_ : Fin 1) : Agent Text :=
  ⟨1, [⟨['k'], some fun w => (w, w), some fun value _ => (0, value)⟩], [], 8,
    fun _ _ _ => none, fun _ _ => none⟩

def kept (w : Text) (key : Text) : Text := if key = ['k'] then w else []

theorem keeper_keeps (i : Fin 1) : KeepsSettings (keeper i) kept := by
  constructor
  · intro f hf get hget w
    obtain rfl := List.mem_singleton.mp hf
    obtain rfl := Option.some.inj hget
    exact ⟨rfl, rfl⟩
  · intro f hf set hset value w
    obtain rfl := List.mem_singleton.mp hf
    obtain rfl := Option.some.inj hset
    funext key
    rw [if_pos rfl]
    simp only [kept, Function.update_apply]
    split <;> rfl

def keeperItem : Item := ⟨['k'], ['v'], by simp, by simp [nul], by simp [nul]⟩

def keeperAgent : Fin 1 := Fin.last 0

def setThenGet : List (Event 1) :=
  [.call (.setInfoWithSameValue [1] ['k', ':', 'v']) 1 (fun _ => ⟨0, []⟩) 0,
    .requestArrives keeperAgent 0, .agentUpdate keeperAgent, .replyArrives 0, .poll 1, .ret,
    .call (.getInfo [1] ['k']) 2 (fun _ => ⟨0, []⟩) 2, .requestArrives keeperAgent 0,
    .agentUpdate keeperAgent, .replyArrives 0, .poll 3, .ret]

def entryTexts (r : InfoProtocol.Result) : List (ℕ × Option Text) :=
  (Result.entries r).map fun entry => (entry.deviceID, CString.cstr entry.valueList 0)

set_option maxRecDepth 4000 in
theorem acknowledged_write_is_read_keeper :
    ∃ s r₂ entry₂ pairs, runEvents (guarded (step keeper 10) FreshSeq) (initial fun _ => [])
        setThenGet = some s ∧ r₂ ∈ s.history.results ∧ entry₂ ∈ Result.entries r₂ ∧
      (['k'], ['v']) ∈ pairs ∧ ((GetReply.replyText pairs).length < configKeyStrLen →
        CString.cstr entry₂.valueList 0 = some (GetReply.replyText pairs)) := by
  obtain ⟨s, hs, hexec, hreqs, htexts, hhandled, hasked⟩ := exists_execution (step keeper 10)
    FreshSeq (initial fun _ => []) (fun s =>
      s.history.results.map InfoProtocol.Result.req = [getInfoRequest [1] ['k'] 2,
        setInfoWithSameValueRequest [1] ['k', ':', 'v'] 1] ∧
      s.history.results.map entryTexts = [[(1, some ['k', ':', 'v', ';'])],
        [(1, some ['k', ':', '0', ';'])]] ∧
      (handledRequests s 0).length = 2 ∧ s.history.asked.all fun req => !req.msg.contains nul)
    setThenGet (by decide)
  obtain ⟨r₂, l, hl, hreq₂, hmap⟩ := List.map_eq_cons_iff.mp hreqs
  obtain ⟨r₁, l, rfl, hreq₁, hmap⟩ := List.map_eq_cons_iff.mp hmap
  obtain rfl := List.map_eq_nil_iff.mp hmap
  rw [hl] at htexts
  obtain ⟨hentries₂, htexts⟩ := List.cons.inj htexts
  obtain ⟨hentries₁, -⟩ := List.cons.inj htexts
  obtain ⟨entry₁, l, hl₁, he₁, -⟩ := List.map_eq_cons_iff.mp hentries₁
  obtain ⟨entry₂, l', hl₂, he₂, -⟩ := List.map_eq_cons_iff.mp hentries₂
  have hids : Function.Injective fun i => (keeper i).myid := by
    intro i j _
    exact Subsingleton.elim i j
  have hplain : ∀ req ∈ s.history.asked, nul ∉ req.msg := by
    intro req hreq
    simpa using List.all_eq_true.mp hasked req hreq
  have hread := acknowledged_write_is_read hids hexec hplain (keeper_keeps 0)
    (show [r₂, r₁].Sublist s.history.results by rw [hl])
    (show AsksFor (keeper 0) [keeperItem] r₁.req from .inr ⟨[1], false, 1, by simp, hreq₁⟩)
    (show ∀ other ∈ [keeperItem], other.key = keeperItem.key → other.value = keeperItem.value by
      simp)
    (by rw [hl₁]; exact List.mem_cons_self) (Prod.mk.inj he₁).1 (Prod.mk.inj he₁).2 (by decide)
    (by rw [hreq₂]; rfl) (by rw [hreq₂]; decide) ⟨_, rfl, rfl⟩
    (by rw [hl₂]; exact List.mem_cons_self) (Prod.mk.inj he₂).1
    (by
      intro req hsub
      have hlen := hsub.length_le
      simp [hhandled] at hlen)
  obtain ⟨pairs, -, hpair, -, htext⟩ := hread
  exact ⟨s, r₂, entry₂, pairs, hs, by rw [hl]; exact List.mem_cons_self,
    by rw [hl₂]; exact List.mem_cons_self, hpair, htext⟩

end RemoteSettings
