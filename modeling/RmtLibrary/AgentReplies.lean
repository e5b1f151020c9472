import RmtLibrary.DatainfoAgent

/-! # What an agent owes for the requests it takes

One update takes every pending request before it sends anything. The ring holds 15 replies, and
the index of a 16th is -1. Up to there an agent answers each request addressed to it once. -/
namespace AgentReplies

open CString (Text nul)
open DdsTransport (Sample taken runCallback)
open Idl (DataInfoType DataInfoRequest DataInfoReply)
open DatainfoAgent

variable {σ : Type}

def known : DataInfoType → Bool
  | .other _ => false
  | _ => true

def addressed (agent : Agent σ) (req : DataInfoRequest) : Bool := req.idList.contains agent.myid

def expectsReply (agent : Agent σ) (req : DataInfoRequest) : Bool :=
  addressed agent req && known req.type

def answerAll (agent : Agent σ) : List DataInfoRequest → σ → Option (List DataInfoReply × σ)
  | [], w => some ([], w)
  | req :: reqs, w =>
    match foundIdx agent req with
    | none => answerAll agent reqs w
    | some i => do
      let (result, w) ← handle agent req i w
      let (replies, w) ← answerAll agent reqs w
      match result with
      | none => some (replies, w)
      | some (msg, binary) =>
        some (⟨agent.myid, req.type, req.randomSeq, msg, binary⟩ :: replies, w)

def updates (agent : Agent σ) : AgentState σ → List (List (Sample DataInfoRequest)) →
    Option (AgentState σ × List DataInfoReply)
  | s, [] => some (s, [])
  | s, pending :: later => do
    let (s, _, sent) ← datainfoAgentUpdate agent pending s
    let (s, sent') ← updates agent s later
    some (s, sent ++ sent')

def Answers (agent : Agent σ) (req : DataInfoRequest) (reply : DataInfoReply) : Prop :=
  reply.deviceID = agent.myid ∧ reply.type = req.type ∧ reply.randomSeq = req.randomSeq

/-- Behind the first `room` addressed requests there are only wrong types. -/
def FitsRoom (agent : Agent σ) (room : ℕ) (reqs : List DataInfoRequest) : Prop :=
  ∀ req ∈ (reqs.filter (addressed agent)).drop room, known req.type = false

theorem foundIdx_none_iff (agent : Agent σ) (req : DataInfoRequest) :
    foundIdx agent req = none ↔ addressed agent req = false := by
  rw [foundIdx, List.findIdx?_eq_none_iff, addressed, ← Bool.not_eq_true, List.contains_iff_mem]
  constructor
  · intro h hm
    simpa using h _ hm
  · intro h x hx
    by_contra he
    have hid : x = agent.myid := by simpa using he
    exact h (hid ▸ hx)

theorem foundIdx_some {agent : Agent σ} {req : DataInfoRequest} {i : ℕ}
    (h : foundIdx agent req = some i) : addressed agent req = true := by
  by_contra hn
  rw [(foundIdx_none_iff agent req).mpr (by simpa using hn)] at h
  simp at h

theorem handle_known {agent : Agent σ} {req : DataInfoRequest} {i : ℕ} {w w' : σ}
    {result : Option (Text × List UInt8)} (h : handle agent req i w = some (result, w')) :
    known req.type = result.isSome := by
  unfold handle at h
  cases ht : req.type with
  | other v =>
    simp only [ht, Option.some.injEq, Prod.mk.injEq] at h
    rw [← h.1]
    rfl
  | _ =>
    simp only [ht, Option.map_eq_some_iff, Prod.mk.injEq] at h
    obtain ⟨r, -, h, -⟩ := h
    rw [← h]
    rfl

def Produced (agent : Agent σ) (req : DataInfoRequest) (reply : DataInfoReply) : Prop :=
  ∃ i w w', foundIdx agent req = some i ∧
    handle agent req i w = some (some (reply.msg, reply.binary), w')

theorem answerAll_produced {agent : Agent σ} {reqs : List DataInfoRequest} {w w' : σ}
    {replies : List DataInfoReply} (h : answerAll agent reqs w = some (replies, w')) :
    List.Forall₂ (fun req reply => Answers agent req reply ∧ Produced agent req reply)
      (reqs.filter (expectsReply agent)) replies := by
  induction reqs generalizing w replies with
  | nil =>
    simp only [answerAll, Option.some.injEq, Prod.mk.injEq] at h
    rw [← h.1]
    exact List.Forall₂.nil
  | cons req reqs ih =>
    cases hi : foundIdx agent req with
    | none =>
      have hna := (foundIdx_none_iff agent req).mp hi
      simp only [answerAll, hi] at h
      rw [List.filter_cons_of_neg (by simp [expectsReply, hna])]
      exact ih h
    | some i =>
      have ha := foundIdx_some hi
      simp only [answerAll, hi, Option.bind_eq_bind, Option.bind_eq_some_iff] at h
      obtain ⟨⟨result, w₁⟩, hh, ⟨rest, w₂⟩, hrest, h⟩ := h
      have hk := handle_known hh
      cases result with
      | none =>
        obtain ⟨rfl, rfl⟩ := Prod.mk.inj (Option.some.inj h)
        rw [List.filter_cons_of_neg (by simp [expectsReply, hk])]
        exact ih hrest
      | some r =>
        obtain ⟨rfl, rfl⟩ := Prod.mk.inj (Option.some.inj h)
        rw [List.filter_cons_of_pos (by simp [expectsReply, ha, hk])]
        exact .cons ⟨⟨rfl, rfl, rfl⟩, i, w, w₁, hi, hh⟩ (ih hrest)

theorem answerAll_forall₂ {agent : Agent σ} {reqs : List DataInfoRequest} {w w' : σ}
    {replies : List DataInfoReply} (h : answerAll agent reqs w = some (replies, w')) :
    List.Forall₂ (Answers agent) (reqs.filter (expectsReply agent)) replies :=
  (answerAll_produced h).imp fun _ _ => And.left

theorem getValue_nul_free {valSize : ℕ} {f : DatainfoFunc σ} {w w' : σ} {value : Text}
    (h : getValue valSize f w = some (value, w')) : nul ∉ value := by
  unfold getValue at h
  cases hf : f.getFunc with
  | none =>
    simp only [hf, Option.map_eq_some_iff, Prod.mk.injEq] at h
    obtain ⟨t, ht, rfl, -⟩ := h
    exact CString.cstr_nul_free ht
  | some get =>
    simp only [hf] at h
    split at h
    · obtain ⟨t, ht, he⟩ := Option.map_eq_some_iff.mp h
      obtain ⟨rfl, -⟩ := Prod.mk.inj he
      exact CString.cstr_nul_free ht
    · cases h

theorem appendValue_text {size size' : ℕ} {resultMsg keys value text : Text}
    (h : appendValue size resultMsg keys value = some (size', text)) :
    text = resultMsg ++ keys ++ ':' :: value ++ [';'] := by
  unfold appendValue at h
  dsimp only at h
  generalize hs : (if size ≤ _ then _ else size) = s at h
  split at h
  · exact (Prod.mk.inj (Option.some.inj h)).2.symm
  · cases h

theorem getBranch_nul_free {agent : Agent σ} {msg resultMsg : Text} {w w' : σ}
    (h : getBranch agent msg w = some (resultMsg, w')) : nul ∉ resultMsg := by
  simp only [getBranch, Option.bind_eq_bind, Option.bind_eq_some_iff] at h
  obtain ⟨⟨m, size, result, w₁⟩, hloop, h⟩ := h
  obtain ⟨rfl, rfl⟩ := Prod.mk.inj (Option.some.inj h)
  refine CString.tokenLoop_invariant (fun b : ℕ × Text × σ => nul ∉ b.2.1) ?_ _
    List.not_mem_nil hloop
  rintro m₀ p ⟨size₀, text, w₀⟩ m₁ ⟨size₁, text', w₁'⟩ htext hstep
  simp only [getStep, Option.bind_eq_bind, Option.bind_eq_some_iff] at hstep
  obtain ⟨keys, hkeys, hstep⟩ := hstep
  cases hf : agent.find keys with
  | none =>
    simp only [hf, Option.some.injEq, Prod.mk.injEq] at hstep
    rw [← hstep.2.2.1]
    exact htext
  | some f =>
    simp only [hf, Option.bind_eq_some_iff] at hstep
    obtain ⟨⟨value, w₂⟩, hvalue, ⟨size₂, text₂⟩, happend, hstep⟩ := hstep
    simp only [Option.some.injEq, Prod.mk.injEq] at hstep
    have hv := getValue_nul_free hvalue
    have hk := CString.cstr_nul_free hkeys
    rw [← hstep.2.2.1, appendValue_text happend]
    simp only [List.mem_append, List.mem_cons, List.not_mem_nil, or_false, not_or]
    exact ⟨⟨⟨htext, hk⟩, by decide, hv⟩, by decide⟩

theorem setBranch_nul_free {agent : Agent σ} {type : DataInfoType} {msg resultMsg : Text}
    {foundIdx : ℕ} {w w' : σ} (h : setBranch agent type msg foundIdx w = some (resultMsg, w')) :
    nul ∉ resultMsg := by
  simp only [setBranch, Option.bind_eq_bind, Option.bind_eq_some_iff] at h
  obtain ⟨⟨m, pairs⟩, -, ⟨m', result, w₁⟩, hloop, h⟩ := h
  obtain ⟨rfl, rfl⟩ := Prod.mk.inj (Option.some.inj h)
  refine CString.tokenLoop_invariant (fun b : Text × σ => nul ∉ b.1) ?_ _
    List.not_mem_nil hloop
  rintro m₀ p ⟨text, w₀⟩ m₁ ⟨text', w₁'⟩ htext hstep
  simp only [setStep, Option.bind_eq_bind, Option.bind_eq_some_iff] at hstep
  obtain ⟨⟨m₂, keyPtr, save⟩, -, keyAt, -, key, hkey, hstep⟩ := hstep
  have hk := CString.cstr_nul_free hkey
  cases hf : (agent.find key).bind DatainfoFunc.setFunc with
  | none =>
    simp only [hf, Option.some.injEq, Prod.mk.injEq] at hstep
    rw [← hstep.2.1]
    exact htext
  | some set =>
    simp only [hf, Option.bind_eq_some_iff] at hstep
    obtain ⟨value, -, text₂, happend, hstep⟩ := hstep
    simp only [Option.some.injEq, Prod.mk.injEq] at hstep
    rw [← hstep.2.1]
    simp only [appendResult] at happend
    split at happend
    · obtain rfl := Option.some.inj happend
      have hint := CString.not_mem_formatInt (set value w₀).1.toInt
        (c := nul) (by decide) (by decide)
      simp only [List.mem_append, List.mem_cons, List.not_mem_nil, or_false, not_or]
      exact ⟨htext, ⟨hk, by decide, hint⟩, by decide⟩
    · cases happend

theorem fileBranch_nul_free {agent : Agent σ}
    {run : FileinfoFunc σ → Option Text → List UInt8 → σ → Option ((Text × List UInt8) × σ)}
    (hrun : ∀ f filename binary w r w', run f filename binary w = some (r, w') → nul ∉ r.1)
    {msg : Text} {binary : List UInt8} {w w' : σ} {r : Text × List UInt8}
    (h : fileBranch agent run msg binary w = some (r, w')) : nul ∉ r.1 := by
  simp only [fileBranch, Option.bind_eq_bind, Option.bind_eq_some_iff] at h
  obtain ⟨⟨m, callbackname, s⟩, -, ⟨m', filename, s'⟩, -, h⟩ := h
  split at h
  · obtain ⟨rfl, rfl⟩ := Prod.mk.inj (Option.some.inj h)
    exact List.not_mem_nil
  · simp only [Option.bind_eq_some_iff] at h
    obtain ⟨name, -, callback, -, file, -, h⟩ := h
    cases hf : agent.fileinfoFuncMaps.find? (·.callbackname == callback) with
    | none =>
      simp only [hf, Option.some.injEq, Prod.mk.injEq] at h
      rw [← h.1]
      exact List.not_mem_nil
    | some f =>
      simp only [hf] at h
      exact hrun _ _ _ _ _ _ h

theorem importStep_nul_free {agent : Agent σ} {f : FileinfoFunc σ} {filename : Option Text}
    {binary : List UInt8} {w w' : σ} {r : Text × List UInt8}
    (h : importStep agent f filename binary w = some (r, w')) : nul ∉ r.1 := by
  simp only [importStep, Option.bind_eq_bind, Option.bind_eq_some_iff] at h
  obtain ⟨w₁, -, h⟩ := h
  cases hf : f.importFunc with
  | none =>
    simp only [hf, Option.some.injEq, Prod.mk.injEq] at h
    rw [← h.1]
    exact List.not_mem_nil
  | some importFunc =>
    simp only [hf, Option.some.injEq, Prod.mk.injEq] at h
    rw [← h.1]
    exact CString.not_mem_formatInt _ (by decide) (by decide)

theorem exportStep_nul_free {agent : Agent σ} {f : FileinfoFunc σ} {filename : Option Text}
    {binary : List UInt8} {w w' : σ} {r : Text × List UInt8}
    (h : exportStep agent f filename binary w = some (r, w')) : nul ∉ r.1 := by
  simp only [exportStep, Option.bind_eq_bind, Option.bind_eq_some_iff] at h
  obtain ⟨content, -, h⟩ := h
  cases hf : f.exportFunc with
  | none =>
    simp only [hf, Option.some.injEq, Prod.mk.injEq] at h
    rw [← h.1]
    exact List.not_mem_nil
  | some exportFunc =>
    simp only [hf, Option.some.injEq, Prod.mk.injEq] at h
    rw [← h.1]
    exact CString.not_mem_formatInt _ (by decide) (by decide)

theorem handle_nul_free {agent : Agent σ} {req : DataInfoRequest} {i : ℕ} {w w' : σ} {msg : Text}
    {binary : List UInt8} (h : handle agent req i w = some (some (msg, binary), w')) :
    nul ∉ msg := by
  unfold handle at h
  cases ht : req.type with
  | get =>
    simp only [ht, Option.map_eq_some_iff, Prod.mk.injEq, Option.some.injEq] at h
    obtain ⟨⟨text, w₁⟩, hbranch, ⟨rfl, -⟩, -⟩ := h
    exact getBranch_nul_free hbranch
  | set =>
    simp only [ht, Option.map_eq_some_iff, Prod.mk.injEq, Option.some.injEq] at h
    obtain ⟨⟨text, w₁⟩, hbranch, ⟨rfl, -⟩, -⟩ := h
    exact setBranch_nul_free hbranch
  | setSameValue =>
    simp only [ht, Option.map_eq_some_iff, Prod.mk.injEq, Option.some.injEq] at h
    obtain ⟨⟨text, w₁⟩, hbranch, ⟨rfl, -⟩, -⟩ := h
    exact setBranch_nul_free hbranch
  | importFile =>
    simp only [ht, Option.map_eq_some_iff, Prod.mk.injEq, Option.some.injEq] at h
    obtain ⟨⟨r, w₁⟩, hbranch, he, -⟩ := h
    have hr := fileBranch_nul_free (fun _ _ _ _ _ _ => importStep_nul_free) hbranch
    obtain rfl : r = (msg, binary) := he
    exact hr
  | exportFile =>
    simp only [ht, Option.map_eq_some_iff, Prod.mk.injEq, Option.some.injEq] at h
    obtain ⟨⟨r, w₁⟩, hbranch, he, -⟩ := h
    have hr := fileBranch_nul_free (fun _ _ _ _ _ _ => exportStep_nul_free) hbranch
    obtain rfl : r = (msg, binary) := he
    exact hr
  | other v => simp [ht] at h

theorem fitsRoom_of_length {agent : Agent σ} {room : ℕ} {reqs : List DataInfoRequest}
    (h : reqs.length ≤ room) : FitsRoom agent room reqs := by
  intro req hreq
  have hlen := List.length_filter_le (addressed agent) reqs
  rw [List.drop_eq_nil_of_le (hlen.trans h)] at hreq
  cases hreq

theorem fitsRoom_skip {agent : Agent σ} {req : DataInfoRequest} (h : addressed agent req = false)
    (room : ℕ) (reqs : List DataInfoRequest) :
    FitsRoom agent room (req :: reqs) ↔ FitsRoom agent room reqs := by
  simp [FitsRoom, h]

theorem fitsRoom_take {agent : Agent σ} {req : DataInfoRequest} (h : addressed agent req = true)
    (room : ℕ) (reqs : List DataInfoRequest) :
    FitsRoom agent (room + 1) (req :: reqs) ↔ FitsRoom agent room reqs := by
  simp [FitsRoom, h]

theorem fitsRoom_full {agent : Agent σ} {req : DataInfoRequest} (h : addressed agent req = true)
    (reqs : List DataInfoRequest) :
    FitsRoom agent 0 (req :: reqs) ↔ known req.type = false ∧ FitsRoom agent 0 reqs := by
  simp [FitsRoom, h]

def toReply (slot : ReplySlot) : Option DataInfoReply :=
  slot.msg.map fun msg => ⟨slot.deviceID, slot.type, slot.randomSeq, msg, slot.binary⟩

/-- The slots `is` are taken, oldest first, and no other slot holds a message. -/
structure Queued (s : AgentState σ) (is : List ℕ) : Prop where
  ring : RingQueue.Holds queueSize s.queue is
  clear : ∀ i, i ∉ is → (s.datainfoReplys i).msg = none

def waiting (s : AgentState σ) (is : List ℕ) : List DataInfoReply :=
  is.filterMap fun i => toReply (s.datainfoReplys i)

theorem queued_init (w : σ) : Queued (datainfoAgentInit w) [] :=
  ⟨RingQueue.holds_empty (by decide), fun _ _ => rfl⟩

theorem Queued.room {s : AgentState σ} {is : List ℕ} (h : Queued s is) : is.length ≤ 15 := by
  have hfits := h.ring.fits
  simp only [queueSize] at hfits
  omega

theorem recvRequest_spec {agent : Agent σ} {s : AgentState σ} {is : List ℕ} (h : Queued s is)
    {req : DataInfoRequest} {i : ℕ} (hi : foundIdx agent req = some i) :
    match handle agent req i s.world with
    | none => recvRequest agent req s = none
    | some (none, w) => ∃ s' is', recvRequest agent req s = some (s', 1) ∧ Queued s' is' ∧
        is'.length = min 15 (is.length + 1) ∧ waiting s' is' = waiting s is ∧ s'.world = w
    | some (some (msg, binary), w) =>
      if is.length < 15 then
        ∃ s' is', recvRequest agent req s = some (s', 0) ∧ Queued s' is' ∧
          is'.length = is.length + 1 ∧ s'.world = w ∧
          waiting s' is' = waiting s is ++
            [⟨agent.myid, req.type, req.randomSeq, msg, binary⟩]
      else recvRequest agent req s = none := by
  have hroom := h.room
  by_cases hfull : is.length < 15
  · obtain ⟨queue, j, hq, hj, hnew, -, hring⟩ :=
      h.ring.enqueue_next (by simp only [queueSize]; omega)
    have henq : qEnqueue s = ({ s with queue }, (j : ℤ)) := by simp [qEnqueue, hq, intIndex]
    cases hh : handle agent req i s.world with
    | none => simp [recvRequest, hi, henq, hh]
    | some r =>
      obtain ⟨result, w⟩ := r
      cases result with
      | none =>
        refine ⟨{ s with queue, world := w }, is ++ [j], by simp [recvRequest, hi, henq, hh],
          ⟨hring, fun k hk => h.clear k ?_⟩, by simp; omega, ?_, rfl⟩
        · simp only [List.mem_append, not_or] at hk
          exact hk.1
        · simp [waiting, toReply, h.clear j hnew]
      | some reply =>
        obtain ⟨msg, binary⟩ := reply
        simp only [hfull, if_true]
        have hbound : (0 : ℤ) ≤ j ∧ (j : ℤ) < queueSize := by omega
        refine ⟨_, is ++ [j], by
          simp only [recvRequest, hi, henq, hh, storeReply, if_pos hbound, Option.bind_eq_bind,
            Option.bind_some]
          rfl, ⟨hring, fun k hk => ?_⟩, by simp, rfl, ?_⟩
        · simp only [List.mem_append, List.mem_singleton, not_or] at hk
          simp only [Int.toNat_natCast]
          rw [Function.update_of_ne hk.2]
          exact h.clear k hk.1
        · simp only [waiting, List.filterMap_append, Int.toNat_natCast]
          congr 1
          · apply List.filterMap_congr
            intro k hk
            rw [Function.update_of_ne]
            exact fun he => hnew (he ▸ hk)
          · simp [toReply]
  · have hlen : is.length + 1 = queueSize := by simp only [queueSize]; omega
    have henq : qEnqueue s = (s, -1) := by simp [qEnqueue, h.ring.enqueue_full hlen, intIndex]
    cases hh : handle agent req i s.world with
    | none => simp [recvRequest, hi, henq, hh]
    | some r =>
      obtain ⟨result, w⟩ := r
      cases result with
      | none =>
        exact ⟨{ s with world := w }, is, by simp [recvRequest, hi, henq, hh], ⟨h.ring, h.clear⟩,
          by omega, rfl, rfl⟩
      | some reply => simp [hfull, recvRequest, hi, henq, hh, storeReply]

/-- A drain answers what it takes exactly when all of it fits. -/
theorem receive_spec (agent : Agent σ) (reqs : List DataInfoRequest) {s : AgentState σ}
    {is : List ℕ} (h : Queued s is) :
    match runCallback (recvRequest agent) s reqs with
    | none => ¬ (FitsRoom agent (15 - is.length) reqs ∧ (answerAll agent reqs s.world).isSome)
    | some s' => FitsRoom agent (15 - is.length) reqs ∧ ∃ is' replies,
        answerAll agent reqs s.world = some (replies, s'.world) ∧ Queued s' is' ∧
          waiting s' is' = waiting s is ++ replies := by
  induction reqs generalizing s is with
  | nil => exact ⟨by simp [FitsRoom], is, [], rfl, h, by simp⟩
  | cons req reqs ih =>
    rw [DdsTransport.runCallback_cons]
    cases hi : foundIdx agent req with
    | none =>
      have hrecv : recvRequest agent req s = some (s, 1) := by simp [recvRequest, hi]
      simp only [hrecv, Option.bind_some, answerAll, hi,
        fitsRoom_skip ((foundIdx_none_iff agent req).mp hi)]
      exact ih h
    | some i =>
      have ha := foundIdx_some hi
      have hroom := h.room
      have hspec := recvRequest_spec h hi
      simp only [answerAll, hi]
      cases hh : handle agent req i s.world with
      | none =>
        simp only [hh] at hspec
        simp [hspec]
      | some r =>
        have hk := handle_known hh
        obtain ⟨_ | ⟨msg, binary⟩, w⟩ := r
        · -- a wrong type uses up a slot, if one is left, and leaves it without a message
          simp only [hh] at hspec
          obtain ⟨s₁, is₁, hrecv, h₁, hlen, hwait, rfl⟩ := hspec
          have hfit : FitsRoom agent (15 - is.length) (req :: reqs) ↔
              FitsRoom agent (15 - is₁.length) reqs := by
            by_cases hfull : is.length < 15
            · have hsub : 15 - is.length = 15 - is₁.length + 1 := by omega
              rw [hsub, fitsRoom_take ha]
            · have hsub : 15 - is.length = 0 ∧ 15 - is₁.length = 0 := by omega
              rw [hsub.1, hsub.2, fitsRoom_full ha, hk]
              simp
          have hrest := ih h₁
          rw [← hwait]
          simp only [hrecv, Option.bind_some, hfit]
          revert hrest
          cases runCallback (recvRequest agent) s₁ reqs with
          | none => simp
          | some s' =>
            rintro ⟨hf, is', replies, hall, hq, hw⟩
            exact ⟨hf, is', replies, by simp [hall], hq, hw⟩
        · simp only [hh] at hspec
          by_cases hfull : is.length < 15
          · rw [if_pos hfull] at hspec
            obtain ⟨s₁, is₁, hrecv, h₁, hlen, rfl, hwait⟩ := hspec
            have hsub : 15 - is.length = 15 - is₁.length + 1 := by omega
            have hrest := ih h₁
            simp only [hrecv, Option.bind_some, hsub, fitsRoom_take ha]
            revert hrest
            cases runCallback (recvRequest agent) s₁ reqs with
            | none =>
              intro hno hboth
              cases hall : answerAll agent reqs s₁.world with
              | none => simp [hall] at hboth
              | some r => exact hno ⟨hboth.1, by simp [hall]⟩
            | some s' =>
              rintro ⟨hf, is', replies, hall, hq, hw⟩
              refine ⟨hf, is', ⟨agent.myid, req.type, req.randomSeq, msg, binary⟩ :: replies,
                by simp [hall], hq, ?_⟩
              rw [hw, hwait, List.append_assoc, List.singleton_append]
          · rw [if_neg hfull] at hspec
            have hsub : 15 - is.length = 0 := by omega
            simp [hspec, hsub, fitsRoom_full ha, hk]

theorem sendData_spec {s : AgentState σ} {is : List ℕ} (h : Queued s is) {fuel : ℕ}
    (hf : is.length < fuel) : ∃ s', datainfoAgentSendData fuel s = some (s', waiting s is) ∧
      Queued s' [] ∧ s'.world = s.world := by
  induction is generalizing s fuel with
  | nil =>
    obtain ⟨fuel, rfl⟩ : ∃ n, fuel = n + 1 := ⟨fuel - 1, by simp at hf; omega⟩
    have hdeq : qDequeue s = (s, -1) := by simp [qDequeue, h.ring.dequeue_empty, intIndex]
    exact ⟨s, by simp [datainfoAgentSendData, hdeq, waiting], h, rfl⟩
  | cons i is ih =>
    obtain ⟨fuel, rfl⟩ : ∃ n, fuel = n + 1 := ⟨fuel - 1, by simp at hf; omega⟩
    simp only [List.length_cons, Nat.add_lt_add_iff_right] at hf
    obtain ⟨queue, hq, hring⟩ := h.ring.dequeue_next
    have hdeq : qDequeue s = ({ s with queue }, (i : ℤ)) := by simp [qDequeue, hq, intIndex]
    have hlt : i < queueSize := h.ring.lt List.mem_cons_self
    have hbound : (0 : ℤ) ≤ i ∧ (i : ℤ) < queueSize := by omega
    have hnew : i ∉ is := (List.nodup_cons.mp h.ring.nodup).1
    have hidx : ¬ ((i : ℤ) = -1) := by omega
    simp only [datainfoAgentSendData, hdeq, if_neg hidx, loadReply, if_pos hbound,
      Option.bind_eq_bind, Option.bind_some, Int.toNat_natCast]
    cases hm : (s.datainfoReplys i).msg with
    | none =>
      have hclear : Queued { s with queue } is := by
        refine ⟨hring, fun j hj => ?_⟩
        by_cases he : j = i
        · rw [he]
          exact hm
        · exact h.clear j (by simp [he, hj])
      obtain ⟨s', hs', hq', hw'⟩ := ih hclear hf
      refine ⟨s', ?_, hq', hw'⟩
      simp only [hs', waiting, List.filterMap_cons, toReply, hm, Option.map_none]
    | some msg =>
      have hclear : Queued { s with
          queue, datainfoReplys := Function.update s.datainfoReplys i
            { s.datainfoReplys i with msg := none } } is := by
        refine ⟨hring, fun j hj => ?_⟩
        by_cases he : j = i
        · simp [he]
        · simp only
          rw [Function.update_of_ne he]
          exact h.clear j (by simp [he, hj])
      obtain ⟨s', hs', hq', hw'⟩ := ih hclear hf
      refine ⟨s', ?_, hq', hw'⟩
      simp only [storeReply, if_pos hbound, Option.bind_some, Int.toNat_natCast, hs']
      have hrest : ∀ k ∈ is, toReply (Function.update s.datainfoReplys i
          { s.datainfoReplys i with msg := none } k) = toReply (s.datainfoReplys k) := by
        intro k hk
        rw [Function.update_of_ne]
        exact fun he => hnew (he ▸ hk)
      simp only [waiting, List.filterMap_cons, toReply, hm, Option.map_some]
      congr 3
      exact List.filterMap_congr hrest

theorem update_spec (agent : Agent σ) {s : AgentState σ} (h : Queued s [])
    (pending : List (Sample DataInfoRequest)) :
    match datainfoAgentUpdate agent pending s with
    | none => ¬ (FitsRoom agent 15 (taken pending) ∧
        (answerAll agent (taken pending) s.world).isSome)
    | some (s', rest, sent) => FitsRoom agent 15 (taken pending) ∧
        answerAll agent (taken pending) s.world = some (sent, s'.world) ∧ Queued s' [] ∧
          rest = DdsTransport.left pending := by
  have hrecv := receive_spec agent (taken pending) h
  simp only [datainfoAgentUpdate, DdsTransport.tryRecv_eq]
  revert hrecv
  cases runCallback (recvRequest agent) s (taken pending) with
  | none => exact id
  | some s₁ =>
    rintro ⟨hf, is, replies, hall, hq, hw⟩
    have hfuel : is.length < queueSize := hq.ring.fits
    obtain ⟨s', hsend, hq', hw'⟩ := sendData_spec hq hfuel
    have hsent : waiting s₁ is = replies := by simpa [waiting] using hw
    simp only [Option.map_some, Option.bind_eq_bind, Option.bind_some, hsend]
    exact ⟨hf, by rw [hall, hsent, hw'], hq', trivial⟩

theorem answerAll_append (agent : Agent σ) (reqs later : List DataInfoRequest) (w : σ) :
    answerAll agent (reqs ++ later) w = (answerAll agent reqs w).bind fun r =>
      (answerAll agent later r.2).map fun r' => (r.1 ++ r'.1, r'.2) := by
  induction reqs generalizing w with
  | nil =>
    simp only [List.nil_append, answerAll, Option.bind_some]
    cases answerAll agent later w <;> rfl
  | cons req reqs ih =>
    simp only [List.cons_append, answerAll]
    cases foundIdx agent req with
    | none => exact ih w
    | some i =>
      simp only
      cases handle agent req i w with
      | none => rfl
      | some r =>
        simp only [Option.bind_eq_bind, Option.bind_some, ih]
        cases answerAll agent reqs r.2 with
        | none => rfl
        | some q =>
          obtain ⟨_ | _, _⟩ := r <;> cases hl : answerAll agent later q.2 <;> simp [hl]

theorem updates_spec (agent : Agent σ) {s : AgentState σ} (h : Queued s [])
    (pendings : List (List (Sample DataInfoRequest))) :
    match updates agent s pendings with
    | none => ¬ ((∀ pending ∈ pendings, FitsRoom agent 15 (taken pending)) ∧
        (answerAll agent (pendings.flatMap taken) s.world).isSome)
    | some (s', sent) => (∀ pending ∈ pendings, FitsRoom agent 15 (taken pending)) ∧
        answerAll agent (pendings.flatMap taken) s.world = some (sent, s'.world) ∧
          Queued s' [] := by
  induction pendings generalizing s with
  | nil => exact ⟨by simp, rfl, h⟩
  | cons pending later ih =>
    have hupdate := update_spec agent h pending
    simp only [updates, List.flatMap_cons, answerAll_append, List.forall_mem_cons]
    revert hupdate
    cases datainfoAgentUpdate agent pending s with
    | none =>
      intro hno hboth
      cases hall : answerAll agent (taken pending) s.world with
      | none => simp [hall] at hboth
      | some r => exact hno ⟨hboth.1.1, by simp [hall]⟩
    | some r =>
      obtain ⟨s₁, rest, sent⟩ := r
      rintro ⟨hf, hall, hq, -⟩
      have hlater := ih hq
      simp only [Option.bind_eq_bind, Option.bind_some, hall]
      revert hlater
      cases updates agent s₁ later with
      | none =>
        intro hno hboth
        refine hno ⟨hboth.1.2, ?_⟩
        simpa using hboth.2
      | some r' =>
        rintro ⟨hfs, hall', hq'⟩
        exact ⟨⟨hf, hfs⟩, by simp [hall'], hq'⟩

/-- An agent answers exactly the addressed requests of a known type, each once, in arrival
order and with the result of its own branch, if and only if no update finds a request of a
known type behind fifteen other addressed ones and every branch it runs is defined. -/
theorem replies_exactly_once_iff (agent : Agent σ) (w : σ)
    (pendings : List (List (Sample DataInfoRequest))) :
    (∃ s replies, updates agent (datainfoAgentInit w) pendings = some (s, replies) ∧
      answerAll agent (pendings.flatMap taken) w = some (replies, s.world) ∧
      List.Forall₂ (Answers agent) ((pendings.flatMap taken).filter (expectsReply agent))
        replies) ↔
    (∀ pending ∈ pendings, FitsRoom agent 15 (taken pending)) ∧
      (answerAll agent (pendings.flatMap taken) w).isSome := by
  have hrun := updates_spec agent (queued_init w) pendings
  have hworld : (datainfoAgentInit w).world = w := rfl
  rw [hworld] at hrun
  constructor
  · rintro ⟨s, replies, hup, hall, -⟩
    simp only [hup] at hrun
    exact ⟨hrun.1, by simp [hall]⟩
  · intro hcond
    cases hup : updates agent (datainfoAgentInit w) pendings with
    | none =>
      simp only [hup] at hrun
      exact absurd hcond hrun
    | some r =>
      obtain ⟨s, replies⟩ := r
      simp only [hup] at hrun
      exact ⟨s, replies, rfl, hrun.2.1, answerAll_forall₂ hrun.2.1⟩

def silentAgent : Agent Unit := ⟨1, [], [], 1024, fun _ _ _ => none, fun _ _ => none⟩

/-- Sixteen `GET` requests in one update: each could be answered, but the last has no slot. -/
theorem sixteen_requests_fault :
    let reqs : List DataInfoRequest := (List.range 16).map fun n => ⟨[1], .get, n, [], []⟩
    (answerAll silentAgent reqs ()).isSome ∧
    ¬ ∃ s replies, updates silentAgent (datainfoAgentInit ())
        [reqs.map fun req => ⟨true, req⟩] = some (s, replies) ∧
      answerAll silentAgent reqs () = some (replies, s.world) ∧
      List.Forall₂ (Answers silentAgent) (reqs.filter (expectsReply silentAgent)) replies := by
  intro reqs
  have hfault : (updates silentAgent (datainfoAgentInit ())
      [reqs.map fun req => ⟨true, req⟩]).isNone := by decide
  refine ⟨by decide, ?_⟩
  rintro ⟨s, replies, hup, -⟩
  simp [hup] at hfault

end AgentReplies
