import RmtLibrary.InfoCorrectness
import RmtLibrary.SequentialObject

/-! # The order in which information calls take effect

Each agent is a sequential object: the requests it has handled, in their order, take its world
from the first one to the present one and give the replies it sent. A call that has returned took
effect at the agents it has entries of before any request asked later does. A request whose call
gave up has no such place: it may be handled at any later time. -/
namespace CallOrder

open AgentReplies
open DatainfoAgent
open DatainfoServer
open DdsTransport (taken)
open GuardedExecution
open Idl (DataInfoRequest DataInfoReply)
open InfoCorrectness
open InfoProtocol
open ReplyCollection
open SequentialObject (Legal)

variable {n : ℕ} {σ : Type} {agents : Fin n → Agent σ} {replyTimeout : ℤ} {world : Fin n → σ}

def answer (agent : Agent σ) (req : DataInfoRequest) (w : σ) : Option (DataInfoReply × σ) := do
  let i ← foundIdx agent req
  let (result, w) ← handle agent req i w
  let (msg, binary) ← result
  some (⟨agent.myid, req.type, req.randomSeq, msg, binary⟩, w)

def openRequest (s : Network n σ) : Option DataInfoRequest := s.server.map (·.replys.req)

def HasEntry (agents : Fin n → Agent σ) (r : InfoProtocol.Result) (i : Fin n) : Prop :=
  (agents i).myid ∈ (Result.entries r).map ReplyEntry.deviceID

structure Ordered (agents : Fin n → Agent σ) (world : Fin n → σ) (s : Network n σ) : Prop where
  legal : ∀ i, Legal (answer (agents i)) (world i) (s.history.handled i) (s.agent i).world
  calls : ∃ earlier, s.history.asked = (openRequest s).toList ++ earlier ∧
    (s.history.results.map InfoProtocol.Result.req).Sublist earlier
  before : ∀ r ∈ s.history.results, ∀ i, HasEntry agents r i → ∀ req ∈ handledRequests s i,
    [req, r.req].Sublist s.history.asked → [r.req, req].Sublist (handledRequests s i)

theorem ordered_initial : Ordered agents world (initial world) where
  legal _ := rfl
  calls := ⟨[], rfl, .slnil⟩
  before _ hr := nomatch hr

theorem handle_unknown {agent : Agent σ} {req : DataInfoRequest} {i : ℕ} {w w' : σ}
    (h : handle agent req i w = some (none, w')) : w' = w := by
  unfold handle at h
  cases ht : req.type with
  | other v =>
    simp only [ht, Option.some.injEq, Prod.mk.injEq, true_and] at h
    exact h.symm
  | _ => simp [ht] at h

/-- An update is a legal piece of the history of its agent. -/
theorem answerAll_legal {agent : Agent σ} {reqs : List DataInfoRequest} {w w' : σ}
    {replies : List DataInfoReply} (h : answerAll agent reqs w = some (replies, w')) :
    Legal (answer agent) w ((reqs.filter (expectsReply agent)).zip replies) w' := by
  induction reqs generalizing w replies with
  | nil =>
    simp only [answerAll, Option.some.injEq, Prod.mk.injEq] at h
    exact h.2
  | cons req reqs ih =>
    cases hi : foundIdx agent req with
    | none =>
      have hna := (foundIdx_none_iff agent req).mp hi
      simp only [answerAll, hi] at h
      rw [List.filter_cons_of_neg (by simp [expectsReply, hna])]
      exact ih h
    | some i =>
      have ha := foundIdx_some hi
      simp only [answerAll, hi, Option.bind_eq_bind, Option.bind_eq_some_iff] at h
      obtain ⟨⟨result, w₁⟩, hh, ⟨rest, w₂⟩, hrest, h⟩ := h
      have hk := handle_known hh
      cases result with
      | none =>
        obtain ⟨rfl, rfl⟩ := Prod.mk.inj (Option.some.inj h)
        obtain rfl := handle_unknown hh
        rw [List.filter_cons_of_neg (by simp [expectsReply, hk])]
        exact ih hrest
      | some r =>
        obtain ⟨rfl, rfl⟩ := Prod.mk.inj (Option.some.inj h)
        rw [List.filter_cons_of_pos (by simp [expectsReply, ha, hk])]
        refine ⟨w₁, ?_, ih hrest⟩
        simp only [answer, hi, hh, Option.bind_eq_bind, Option.bind_some]

theorem handled_of_hasEntry {s : Network n σ} (h : Invariant agents s)
    (hids : Function.Injective fun i => (agents i).myid) {r : InfoProtocol.Result}
    (hr : r ∈ s.history.results) {i : Fin n} (hentry : HasEntry agents r i) :
    r.req ∈ handledRequests s i := by
  obtain ⟨entry, hmem, hid⟩ := List.mem_map.mp hentry
  obtain ⟨j, reply, hhandled, -, hmyid, -⟩ := (h.results r hr).texts entry hmem
  obtain rfl : j = i := hids (hmyid.symm.trans hid)
  exact List.mem_map_of_mem hhandled

theorem ordered_agentUpdate {s s' : Network n σ} {i : Fin n} (h : Invariant agents s)
    (ho : Ordered agents world s) (hids : Function.Injective fun i => (agents i).myid)
    (hstep : agentStep agents i s = some s') : Ordered agents world s' := by
  obtain ⟨⟨agent, rest, sent⟩, hupdate, hstep⟩ := Option.bind_eq_some_iff.mp hstep
  obtain rfl := Option.some.inj hstep
  have hspec := update_spec (agents i) (h.requests i).queued (s.pending i)
  rw [hupdate] at hspec
  obtain ⟨-, hall, -, -⟩ := hspec
  constructor
  · intro j
    by_cases hj : j = i
    · subst hj
      simp only [Function.update_self]
      exact (ho.legal j).append (answerAll_legal hall)
    · simp only [Function.update_of_ne hj]
      exact ho.legal j
  · exact ho.calls
  · intro r hr j hentry req hreq hlater
    by_cases hj : j = i
    · subst hj
      simp only [handledRequests, Function.update_self, List.map_append] at hreq ⊢
      rcases List.mem_append.mp hreq with hold | hnow
      · exact (ho.before r hr j hentry req hold hlater).trans (List.sublist_append_left _ _)
      · -- the request of the result was handled in an earlier update
        have hfirst := handled_of_hasEntry h hids hr hentry
        exact (List.singleton_sublist.mpr hfirst).append (List.singleton_sublist.mpr hnow)
    · simp only [handledRequests, Function.update_of_ne hj] at hreq ⊢
      exact ho.before r hr j hentry req hreq hlater

theorem Ordered.same {s s' : Network n σ} (ho : Ordered agents world s)
    (hopen : openRequest s' = openRequest s) (hagent : s'.agent = s.agent)
    (hasked : s'.history.asked = s.history.asked)
    (hhandled : s'.history.handled = s.history.handled)
    (hresults : s'.history.results = s.history.results) : Ordered agents world s' := by
  obtain ⟨hlegal, hcalls, hbefore⟩ := ho
  constructor
  · rw [hagent, hhandled]
    exact hlegal
  · rw [hopen, hasked, hresults]
    exact hcalls
  · intro r hr i hentry req
    rw [hresults] at hr
    rw [handledRequests, hhandled, hasked]
    exact hbefore r hr i hentry req

theorem ordered_call {s s' : Network n σ} {call : InfoCall} {randomSeq : ℕ}
    {block : ℕ → ReplyEntry} {start : ℤ} (h : Invariant agents s) (ho : Ordered agents world s)
    (hfresh : FreshSeq s (.call call randomSeq block start))
    (hstep : beginCall call randomSeq block start s = some s') : Ordered agents world s' := by
  rw [beginCall] at hstep
  split at hstep
  · cases hstep
  next hidle =>
  obtain ⟨req, hreq, rfl⟩ := Option.map_eq_some_iff.mp hstep
  obtain ⟨hseq, -⟩ := request_spec hreq
  have hserver : s.server = none := by simpa using hidle
  constructor
  · exact ho.legal
  · obtain ⟨earlier, hasked, hsub⟩ := ho.calls
    refine ⟨s.history.asked, rfl, ?_⟩
    rw [hasked]
    exact hsub.trans (List.sublist_append_right _ _)
  · intro r hr i hentry req' hreq' hlater
    apply ho.before r hr i hentry req' hreq'
    -- the new request is handled nowhere yet
    have hold : req' ∈ s.history.asked :=
      (h.requests i).asked req' (List.mem_append_left _ hreq')
    have hne : req' ≠ req := by
      rintro rfl
      exact hfresh req' hold hseq
    exact hlater.of_cons_of_ne hne

theorem ordered_ret {s s' : Network n σ} (h : Invariant agents s) (ho : Ordered agents world s)
    (hstep : retStep replyTimeout s = some s') : Ordered agents world s' := by
  obtain ⟨c, hc, hstep⟩ := Option.bind_eq_some_iff.mp hstep
  by_cases hgo : c.goesOn replyTimeout = true
  · rw [if_pos hgo] at hstep
    cases hstep
  rw [if_neg hgo] at hstep
  obtain rfl := Option.some.inj hstep
  obtain ⟨earlier, hasked, hsub⟩ := ho.calls
  have hopen : (openRequest s).toList = [c.replys.req] := by simp [openRequest, hc]
  rw [hopen, List.singleton_append] at hasked
  constructor
  · exact ho.legal
  · exact ⟨c.replys.req :: earlier, hasked, hsub.cons_cons _⟩
  · intro r hr i hentry req hreq hlater
    rcases List.mem_cons.mp hr with rfl | hr
    · -- nothing was asked later than the call that returns
      have hnodup : s.history.asked.Nodup := h.distinct.of_map
      rw [hasked] at hnodup hlater
      have hnot := (List.nodup_cons.mp hnodup).1
      have hmem : c.replys.req ∈ earlier := by
        have htail := hlater.tail
        exact List.singleton_sublist.mp htail
      exact absurd hmem hnot
    · exact ho.before r hr i hentry req hreq hlater

theorem ordered_step {s s' : Network n σ} {e : Event n} (h : Invariant agents s)
    (ho : Ordered agents world s) (hids : Function.Injective fun i => (agents i).myid)
    (hfresh : FreshSeq s e) (hstep : step agents replyTimeout s e = some s') :
    Ordered agents world s' := by
  cases e with
  | call call randomSeq block start => exact ordered_call h ho hfresh hstep
  | ret => exact ordered_ret h ho hstep
  | agentUpdate i => exact ordered_agentUpdate h ho hids hstep
  | poll now =>
    obtain ⟨c, hc, hpoll⟩ := Option.bind_eq_some_iff.mp hstep
    by_cases hgo : c.goesOn replyTimeout = true
    · rw [if_pos hgo] at hpoll
      obtain ⟨c', hturn, hreq, -⟩ := poll_spec h hc now
      rw [hturn] at hpoll
      obtain rfl := Option.some.inj hpoll
      exact ho.same (by simp [openRequest, hc, hreq]) rfl rfl rfl rfl
    · rw [if_neg hgo] at hpoll
      cases hpoll
  | requestArrives i k =>
    obtain ⟨req, hreq, rfl⟩ := Option.map_eq_some_iff.mp hstep
    exact ho.same rfl rfl rfl rfl rfl
  | replyArrives k =>
    obtain ⟨reply, hreply, rfl⟩ := Option.map_eq_some_iff.mp hstep
    exact ho.same rfl rfl rfl rfl rfl
  | requestLost | requestWriterGone | replyLost | replyWriterGone | replyExpires =>
    obtain rfl := Option.some.inj hstep
    exact ho.same rfl rfl rfl rfl rfl

theorem ordered_execution {s : Network n σ} (hids : Function.Injective fun i => (agents i).myid)
    (h : Execution (step agents replyTimeout) FreshSeq (initial world) s) :
    Invariant agents s ∧ Ordered agents world s := by
  apply h.invariant (I := fun s => Invariant agents s ∧ Ordered agents world s)
    ⟨invariant_initial world, ordered_initial⟩
  rintro s e s' ⟨hinv, ho⟩ hfresh hstep
  exact ⟨invariant_step hinv hids hfresh hstep, ordered_step hinv ho hids hfresh hstep⟩

/-- The entry holds the reply of agent `i` to the request, made in the state its earlier
requests left. -/
def AnsweredInTurn (agents : Fin n → Agent σ) (world : Fin n → σ) (s : Network n σ)
    (req : DataInfoRequest) (entry : ReplyEntry) : Prop :=
  ∃ i before reply behind u u', s.history.handled i = before ++ (req, reply) :: behind ∧
    Legal (answer (agents i)) (world i) before u ∧ answer (agents i) req u = some (reply, u') ∧
    entry.deviceID = (agents i).myid ∧
    (reply.msg.length < configKeyStrLen → CString.cstr entry.valueList 0 = some reply.msg)

theorem answeredInTurn {s : Network n σ} (h : Invariant agents s) (ho : Ordered agents world s)
    {r : InfoProtocol.Result} (hr : r ∈ s.history.results) {entry : ReplyEntry}
    (hentry : entry ∈ Result.entries r) : AnsweredInTurn agents world s r.req entry := by
  obtain ⟨i, reply, hmem, -, hid, htext⟩ := (h.results r hr).texts entry hentry
  obtain ⟨before, behind, hcut⟩ := List.append_of_mem hmem
  have hlegal := ho.legal i
  rw [hcut] at hlegal
  obtain ⟨u, u', hbefore, hanswer, -⟩ := hlegal.split
  exact ⟨i, before, reply, behind, u, u', hcut, hbefore, hanswer, hid, htext⟩

/-- In every run whose calls have different random sequences, with agents of different IDs: the
requests an agent has handled, one after the other, make its replies and lead to its world; every
entry of every result is such a reply; and an agent with an entry in a result handled its request
before every request of a later call. -/
theorem calls_linearizable {s : Network n σ}
    (hids : Function.Injective fun i => (agents i).myid)
    (h : Execution (step agents replyTimeout) FreshSeq (initial world) s) :
    (∀ i, Legal (answer (agents i)) (world i) (s.history.handled i) (s.agent i).world) ∧
    (∀ r ∈ s.history.results, ∀ entry ∈ Result.entries r,
      AnsweredInTurn agents world s r.req entry) ∧
    (s.history.results.map InfoProtocol.Result.req).Sublist s.history.asked ∧
    ∀ r ∈ s.history.results, ∀ i, HasEntry agents r i → ∀ req ∈ handledRequests s i,
      [req, r.req].Sublist s.history.asked → [r.req, req].Sublist (handledRequests s i) := by
  obtain ⟨hinv, ho⟩ := ordered_execution hids h
  refine ⟨ho.legal, fun r hr entry hentry => answeredInTurn hinv ho hr hentry, ?_, ho.before⟩
  obtain ⟨earlier, hasked, hsub⟩ := ho.calls
  rw [hasked]
  exact hsub.trans (List.sublist_append_right _ _)

def counter (_ : Fin 1) : Agent ℕ :=
  ⟨1, [⟨['k'], some fun w => (CString.formatInt w, w + 1), none⟩], [], 8, fun _ _ _ => none,
    fun _ _ => none⟩

def counterAgent : Fin 1 := Fin.last 0

/-- The request of the first call arrives last, when two later calls have returned. -/
def lateRequest : List (Event 1) :=
  [.call (.getInfo [1] ['k']) 1 (fun _ => ⟨0, []⟩) 0, .poll 20, .ret,
    .call (.getInfo [1] ['k']) 2 (fun _ => ⟨0, []⟩) 20, .requestArrives counterAgent 1,
    .agentUpdate counterAgent, .replyArrives 0, .poll 21, .ret,
    .call (.getInfo [1] ['k']) 3 (fun _ => ⟨0, []⟩) 21, .requestArrives counterAgent 1,
    .agentUpdate counterAgent, .replyArrives 0, .poll 22, .ret,
    .requestArrives counterAgent 0, .agentUpdate counterAgent]

theorem calls_linearizable_late_request :
    ∃ s, runEvents (guarded (step counter 10) FreshSeq) (initial fun _ => 0) lateRequest =
        some s ∧
      s.history.results.map (fun r => (r.req.randomSeq, r.infoNum)) = [(3, 1), (2, 1), (1, 0)] ∧
      (handledRequests s 0).map DataInfoRequest.randomSeq = [2, 3, 1] ∧
      Legal (answer (counter 0)) 0 (s.history.handled 0) 3 ∧
      ∀ r ∈ s.history.results, ∀ entry ∈ Result.entries r,
        AnsweredInTurn counter (fun _ => 0) s r.req entry := by
  obtain ⟨s, hs, hexec, hresults, horder, hworld⟩ := exists_execution (step counter 10)
    FreshSeq (initial fun _ => 0) (fun s =>
      s.history.results.map (fun r => (r.req.randomSeq, r.infoNum)) = [(3, 1), (2, 1), (1, 0)] ∧
      (handledRequests s 0).map DataInfoRequest.randomSeq = [2, 3, 1] ∧ (s.agent 0).world = 3)
    lateRequest (by decide)
  have hids : Function.Injective fun i => (counter i).myid := by
    intro i j _
    exact Subsingleton.elim i j
  obtain ⟨hlegal, hentries, -, -⟩ := calls_linearizable hids hexec
  refine ⟨s, hs, hresults, horder, ?_, hentries⟩
  rw [← hworld]
  exact hlegal 0

end CallOrder
