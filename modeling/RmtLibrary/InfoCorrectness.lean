import RmtLibrary.GuardedExecution
import RmtLibrary.InfoProtocol
import RmtLibrary.MessagePool

/-! # What the information calls return

An invariant over everything in flight: each request is somewhere at most once for each agent,
and each reply, with the device and the random sequence it carries, is somewhere at most once
and was made by an agent for a request with that random sequence. -/
namespace InfoCorrectness

open AgentReplies
open CString (nul)
open DatainfoAgent
open DatainfoServer
open DdsTransport (Sample taken takenOf leftOf valid)
open GuardedExecution
open Idl (DataInfoRequest DataInfoReply)
open InfoProtocol
open MessagePool
open ReplyCollection

variable {n : ℕ} {σ : Type} {agents : Fin n → Agent σ} {replyTimeout : ℤ}

def replyKey (reply : DataInfoReply) : ℕ × ℕ := (reply.deviceID, reply.randomSeq)

def requestPool (s : Network n σ) (i : Fin n) : List DataInfoRequest :=
  s.requests i ++ valid (s.pending i)

/-- The replies that a call may still store, and those the present call has stored. -/
def replyPool (s : Network n σ) : List DataInfoReply :=
  s.replies ++ (valid s.reader ++ s.history.heard)

def handledRequests (s : Network n σ) (i : Fin n) : List DataInfoRequest :=
  (s.history.handled i).map Prod.fst

structure RequestsOnce (agents : Fin n → Agent σ) (s : Network n σ) (i : Fin n) : Prop where
  once : Distinct DataInfoRequest.randomSeq (handledRequests s i ++ requestPool s i)
  asked : ∀ req ∈ handledRequests s i ++ requestPool s i, req ∈ s.history.asked
  answers : ∀ p ∈ s.history.handled i, Answers (agents i) p.1 p.2 ∧ Produced (agents i) p.1 p.2
  queued : Queued (s.agent i) []

structure RepliesOnce (s : Network n σ) : Prop where
  once : Distinct replyKey (replyPool s)
  origin : ∀ reply ∈ replyPool s, ∃ i req, (req, reply) ∈ s.history.handled i

structure CallWaits (s : Network n σ) (c : Waiting) : Prop where
  asked : c.replys.req ∈ s.history.asked
  stored : Stored c.replys s.history.heard
  size : c.replys.list.length = c.idNum
  idNum : c.idNum = c.replys.req.idList.length
  own : ∀ reply ∈ s.history.heard, isFor c.replys.req reply = true

def Result.entries (r : Result) : List ReplyEntry := r.list.take r.infoNum

/-- The entry has the ID of an agent and the text this agent made for the request. -/
def FromAgent (agents : Fin n → Agent σ) (history : History n) (req : DataInfoRequest)
    (entry : ReplyEntry) : Prop :=
  ∃ i reply, (req, reply) ∈ history.handled i ∧ Produced (agents i) req reply ∧
    entry.deviceID = (agents i).myid ∧
    (reply.msg.length < configKeyStrLen → CString.cstr entry.valueList 0 = some reply.msg)

structure Correct (agents : Fin n → Agent σ) (history : History n) (r : Result) : Prop where
  length : (Result.entries r).length = r.infoNum
  distinct : ((Result.entries r).map ReplyEntry.deviceID).Nodup
  asked : ∀ entry ∈ Result.entries r, entry.deviceID ∈ r.req.idList
  texts : ∀ entry ∈ Result.entries r, FromAgent agents history r.req entry
  complete : r.infoNum = r.req.idList.length →
    ((Result.entries r).map ReplyEntry.deviceID).Perm r.req.idList

structure Invariant (agents : Fin n → Agent σ) (s : Network n σ) : Prop where
  requests : ∀ i, RequestsOnce agents s i
  replies : RepliesOnce s
  distinct : Distinct DataInfoRequest.randomSeq s.history.asked
  waiting : ∀ c, s.server = some c → CallWaits s c
  results : ∀ r ∈ s.history.results, Correct agents s.history r

def FreshSeq (s : Network n σ) : Event n → Prop
  | .call _ randomSeq _ _ => ∀ req ∈ s.history.asked, req.randomSeq ≠ randomSeq
  | _ => True

theorem invariant_initial (world : Fin n → σ) : Invariant agents (initial world) where
  requests i := by
    constructor
    · exact List.nodup_nil
    · intro req hreq
      cases hreq
    · intro p hp
      cases hp
    · exact queued_init (world i)
  replies := by
    constructor
    · exact List.nodup_nil
    · intro reply hreply
      cases hreply
  distinct := List.nodup_nil
  waiting c hc := by cases hc
  results r hr := by cases hr

theorem RequestsOnce.congr {s s' : Network n σ} {i : Fin n} (h : RequestsOnce agents s i)
    (hpool : requestPool s' i = requestPool s i)
    (hhandled : s'.history.handled i = s.history.handled i)
    (hasked : s'.history.asked = s.history.asked) (hagent : s'.agent i = s.agent i) :
    RequestsOnce agents s' i := by
  obtain ⟨honce, hall, hanswers, hqueued⟩ := h
  constructor
  · rw [handledRequests, hpool, hhandled]
    exact honce
  · rw [handledRequests, hpool, hhandled, hasked]
    exact hall
  · rw [hhandled]
    exact hanswers
  · rw [hagent]
    exact hqueued

theorem Invariant.move {s s' : Network n σ} (h : Invariant agents s)
    (hserver : s'.server = s.server) (hagent : s'.agent = s.agent)
    (hhistory : s'.history = s.history)
    (hrequests : ∀ i, (requestPool s' i).Subperm (requestPool s i))
    (hreplies : (replyPool s').Subperm (replyPool s)) : Invariant agents s' := by
  have hhandled : ∀ i, handledRequests s' i = handledRequests s i := by
    intro i
    rw [handledRequests, hhistory, handledRequests]
  constructor
  · intro i
    obtain ⟨honce, hasked, hanswers, hqueued⟩ := h.requests i
    have hin : (handledRequests s' i ++ requestPool s' i).Subperm
        (handledRequests s i ++ requestPool s i) := by
      rw [hhandled]
      exact (List.subperm_append_left _).mpr (hrequests i)
    constructor
    · exact honce.inside hin
    · intro req hreq
      rw [hhistory]
      exact hasked req (hin.subset hreq)
    · rw [hhistory]
      exact hanswers
    · rw [hagent]
      exact hqueued
  · constructor
    · exact h.replies.once.inside hreplies
    · intro reply hreply
      rw [hhistory]
      exact h.replies.origin reply (hreplies.subset hreply)
  · rw [hhistory]
    exact h.distinct
  · intro c hc
    rw [hserver] at hc
    obtain ⟨hasked, hstored, hsize, hnum, hown⟩ := h.waiting c hc
    exact ⟨hhistory ▸ hasked, hhistory ▸ hstored, hsize, hnum, hhistory ▸ hown⟩
  · rw [hhistory]
    exact h.results

theorem requestPool_update {s : Network n σ} {i : Fin n} {requests : List DataInfoRequest}
    {pending : List (Sample DataInfoRequest)}
    (hin : (requests ++ valid pending).Subperm (requestPool s i)) (j : Fin n) :
    (Function.update s.requests i requests j ++
      valid (Function.update s.pending i pending j)).Subperm (requestPool s j) := by
  by_cases hj : j = i
  · subst hj
    simpa using hin
  · rw [Function.update_of_ne hj, Function.update_of_ne hj]
    exact .refl _

theorem valid_snoc {α : Type} (samples : List (Sample α)) (a : α) :
    valid (samples ++ [(⟨true, a⟩ : Sample α)]) = valid samples ++ [a] :=
  DdsTransport.valid_append _ _

theorem valid_snoc_gone {α : Type} (samples : List (Sample α)) (a : α) :
    valid (samples ++ [(⟨false, a⟩ : Sample α)]) = valid samples :=
  (DdsTransport.valid_append _ _).trans (List.append_nil _)

theorem delivered_perm {α : Type} {sent : List α} {k : ℕ} {a : α} (h : sent[k]? = some a)
    (samples : List (Sample α)) :
    (sent.eraseIdx k ++ valid (samples ++ [(⟨true, a⟩ : Sample α)])).Perm
      (sent ++ valid samples) := by
  have hswap : (sent.eraseIdx k ++ (valid samples ++ [a])).Perm
      (sent.eraseIdx k ++ a :: valid samples) :=
    List.Perm.append_left _ List.perm_append_comm
  rw [valid_snoc]
  exact hswap.trans (List.perm_middle.trans ((moved_perm h).append_right _))

theorem request_spec {call : InfoCall} {randomSeq : ℕ} {req : DataInfoRequest}
    (h : call.request randomSeq = some req) :
    req.randomSeq = randomSeq ∧ req.idList.length = call.idNum := by
  cases call with
  | getInfo idList keyList =>
    obtain rfl := Option.some.inj h
    exact ⟨rfl, rfl⟩
  | setInfo devList =>
    obtain ⟨buffer, -, rfl⟩ := Option.map_eq_some_iff.mp h
    exact ⟨rfl, List.length_map _⟩
  | setInfoWithSameValue idList valueList =>
    obtain rfl := Option.some.inj h
    exact ⟨rfl, rfl⟩

theorem Correct.grow {history history' : History n} {r : Result} (h : Correct agents history r)
    (hgrow : ∀ i, history.handled i ⊆ history'.handled i) : Correct agents history' r := by
  refine ⟨h.length, h.distinct, h.asked, ?_, h.complete⟩
  intro entry hentry
  obtain ⟨i, reply, hmem, hrest⟩ := h.texts entry hentry
  exact ⟨i, reply, hgrow i hmem, hrest⟩

theorem invariant_call {s s' : Network n σ} {call : InfoCall} {randomSeq : ℕ}
    {block : ℕ → ReplyEntry} {start : ℤ} (h : Invariant agents s)
    (hfresh : FreshSeq s (.call call randomSeq block start))
    (hstep : beginCall call randomSeq block start s = some s') : Invariant agents s' := by
  rw [beginCall] at hstep
  split at hstep
  · cases hstep
  obtain ⟨req, hreq, rfl⟩ := Option.map_eq_some_iff.mp hstep
  obtain ⟨hseq, hnum⟩ := request_spec hreq
  have hnew : ∀ req' ∈ s.history.asked, req'.randomSeq ≠ req.randomSeq := by
    rw [hseq]
    exact hfresh
  have hsingle : Distinct DataInfoRequest.randomSeq [req] := List.nodup_singleton _
  constructor
  · intro i
    obtain ⟨honce, hasked, hanswers, hqueued⟩ := h.requests i
    let old := handledRequests s i ++ requestPool s i
    have hperm : (handledRequests s i ++ (s.requests i ++ [req] ++ valid (s.pending i))).Perm
        ([req] ++ old) := by
      have hfront : (s.requests i ++ [req] ++ valid (s.pending i)).Perm
          (req :: requestPool s i) := by
        rw [List.append_assoc]
        exact List.perm_middle
      exact (List.Perm.append_left _ hfront).trans List.perm_middle
    have hjoin : Distinct DataInfoRequest.randomSeq ([req] ++ old) := by
      apply honce.join hsingle
      intro a ha b hb
      obtain rfl := List.mem_singleton.mp ha
      exact (hnew b (hasked b hb)).symm
    constructor
    · exact hjoin.inside hperm.subperm
    · intro req' hreq'
      rcases List.mem_append.mp (hperm.subset hreq') with hlast | hold
      · obtain rfl := List.mem_singleton.mp hlast
        exact List.mem_cons_self
      · exact List.mem_cons_of_mem _ (hasked req' hold)
    · exact hanswers
    · exact hqueued
  · have hin : (s.replies ++ (valid s.reader ++ [])).Subperm (replyPool s) := by
      rw [List.append_nil]
      exact (List.subperm_append_left _).mpr (List.sublist_append_left _ _).subperm
    exact ⟨h.replies.once.inside hin, fun reply hreply =>
      h.replies.origin reply (hin.subset hreply)⟩
  · apply h.distinct.join hsingle
    intro a ha b hb
    obtain rfl := List.mem_singleton.mp ha
    exact (hnew b hb).symm
  · intro c hc
    obtain rfl := Option.some.inj hc
    constructor
    · exact List.mem_cons_self
    · exact ⟨rfl, Nat.zero_le _, .nil⟩
    · simp [startWaiting]
    · exact hnum.symm
    · intro reply hreply
      cases hreply
  · intro r hr
    exact (h.results r hr).grow fun _ => List.Subset.refl _

theorem randomSeq_inj {history : List DataInfoRequest} {req req' : DataInfoRequest}
    (h : Distinct DataInfoRequest.randomSeq history) (hreq : req ∈ history)
    (hreq' : req' ∈ history) (he : req.randomSeq = req'.randomSeq) : req = req' :=
  List.inj_on_of_nodup_map h hreq hreq' he

theorem answered_pairs {agent : Agent σ} {reqs : List DataInfoRequest}
    {sent : List DataInfoReply}
    (h : List.Forall₂ (fun req reply => Answers agent req reply ∧ Produced agent req reply)
      reqs sent) :
    (reqs.zip sent).map Prod.fst = reqs ∧ (reqs.zip sent).map Prod.snd = sent ∧
      ∀ p ∈ reqs.zip sent, Answers agent p.1 p.2 ∧ Produced agent p.1 p.2 :=
  ⟨List.map_fst_zip h.length_eq.le, List.map_snd_zip h.length_eq.ge,
    fun _ hp => (List.forall₂_iff_zip.mp h).2 hp⟩

theorem distinct_sent {agent : Agent σ} {pairs : List (DataInfoRequest × DataInfoReply)}
    (hpairs : ∀ p ∈ pairs, Answers agent p.1 p.2)
    (hreqs : Distinct DataInfoRequest.randomSeq (pairs.map Prod.fst)) :
    Distinct replyKey (pairs.map Prod.snd) := by
  have hkeys : (pairs.map Prod.snd).map replyKey =
      ((pairs.map Prod.fst).map DataInfoRequest.randomSeq).map (agent.myid, ·) := by
    simp only [List.map_map]
    apply List.map_congr_left
    intro p hp
    obtain ⟨hid, -, hseq⟩ := hpairs p hp
    simp only [Function.comp_apply, replyKey, hid, hseq]
  rw [Distinct, hkeys]
  exact hreqs.map fun _ _ he => (Prod.mk.inj he).2

theorem taken_requests (s : Network n σ) (i : Fin n) (p : DataInfoRequest → Bool) :
    (handledRequests s i ++ (taken (s.pending i)).filter p ++
      (s.requests i ++ valid (DdsTransport.left (s.pending i)))).Subperm
      (handledRequests s i ++ requestPool s i) := by
  let leftPool := s.requests i ++ valid (DdsTransport.left (s.pending i))
  have hsub : ((taken (s.pending i)).filter p ++ leftPool).Subperm
      (taken (s.pending i) ++ leftPool) :=
    (List.subperm_append_right _).mpr List.filter_sublist.subperm
  have hperm : (taken (s.pending i) ++ leftPool).Perm (requestPool s i) := by
    rw [requestPool, ← DdsTransport.taken_append_left]
    exact List.perm_append_comm_assoc _ _ _
  rw [List.append_assoc]
  exact (List.subperm_append_left _).mpr (hsub.trans hperm.subperm)

theorem new_reply_keys {s : Network n σ} {i : Fin n} (h : Invariant agents s)
    (hids : Function.Injective fun i => (agents i).myid)
    {pairs : List (DataInfoRequest × DataInfoReply)}
    (hpairs : ∀ p ∈ pairs, Answers (agents i) p.1 p.2)
    (honce : Distinct DataInfoRequest.randomSeq (handledRequests s i ++ pairs.map Prod.fst)) :
    ∀ a ∈ pairs.map Prod.snd, ∀ b ∈ replyPool s, replyKey a ≠ replyKey b := by
  intro a ha b hb he
  obtain ⟨p, hp, rfl⟩ := List.mem_map.mp ha
  obtain ⟨hid, -, hseq⟩ := hpairs p hp
  obtain ⟨j, req, hmem⟩ := h.replies.origin b hb
  obtain ⟨⟨hid', -, hseq'⟩, -⟩ := (h.requests j).answers _ hmem
  obtain ⟨hsameId, hsameSeq⟩ := Prod.mk.inj he
  -- the devices differ, so the earlier reply is of this agent, which had not seen the request
  obtain rfl : i = j := hids (hid.symm.trans (hsameId.trans hid'))
  have hearlier : req ∈ handledRequests s i := List.mem_map_of_mem hmem
  rw [Distinct, List.map_append, List.nodup_append] at honce
  exact honce.2.2 _ (List.mem_map_of_mem hearlier) _ (List.mem_map_of_mem (List.mem_map_of_mem hp))
    (hseq'.symm.trans (hsameSeq.symm.trans hseq))

theorem invariant_agentUpdate {s s' : Network n σ} {i : Fin n} (h : Invariant agents s)
    (hids : Function.Injective fun i => (agents i).myid)
    (hstep : agentStep agents i s = some s') : Invariant agents s' := by
  obtain ⟨⟨agent, rest, sent⟩, hupdate, hstep⟩ := Option.bind_eq_some_iff.mp hstep
  obtain rfl := Option.some.inj hstep
  have hspec := update_spec (agents i) (h.requests i).queued (s.pending i)
  rw [hupdate] at hspec
  obtain ⟨-, hall, hqueued, rfl⟩ := hspec
  obtain ⟨hfst, hsnd, hpairs⟩ := answered_pairs (answerAll_produced hall)
  let reqs := (taken (s.pending i)).filter (expectsReply (agents i))
  let pairs := reqs.zip sent
  change pairs.map Prod.fst = reqs at hfst
  change pairs.map Prod.snd = sent at hsnd
  obtain ⟨honce, hasked, hanswers, -⟩ := h.requests i
  have hin := taken_requests s i (expectsReply (agents i))
  have hboth : Distinct DataInfoRequest.randomSeq (handledRequests s i ++ pairs.map Prod.fst) := by
    rw [hfst]
    exact honce.inside ((List.sublist_append_left _ _).subperm.trans hin)
  have hnew : ∀ a ∈ sent, ∀ b ∈ replyPool s, replyKey a ≠ replyKey b := by
    rw [← hsnd]
    exact new_reply_keys h hids (fun p hp => (hpairs p hp).1) hboth
  have hpool : (s.replies ++ sent ++ (valid s.reader ++ s.history.heard)).Perm
      (sent ++ replyPool s) := by
    rw [List.append_assoc]
    exact List.perm_append_comm_assoc _ _ _
  have hgrow : ∀ j, s.history.handled j ⊆
      Function.update s.history.handled i (s.history.handled i ++ pairs) j := by
    intro j
    by_cases hj : j = i
    · subst hj
      rw [Function.update_self]
      exact List.subset_append_left _ _
    · rw [Function.update_of_ne hj]
      exact List.Subset.refl _
  constructor
  · intro j
    by_cases hj : j = i
    · subst hj
      have hhandled : (s.history.handled j ++ pairs).map Prod.fst =
          handledRequests s j ++ reqs := by
        rw [List.map_append, hfst]
        rfl
      constructor
      · simp only [handledRequests, requestPool, Function.update_self]
        rw [hhandled]
        exact honce.inside hin
      · simp only [handledRequests, requestPool, Function.update_self]
        rw [hhandled]
        intro req hreq
        exact hasked req (hin.subset hreq)
      · simp only [Function.update_self]
        intro p hp
        rcases List.mem_append.mp hp with hold | hnow
        · exact hanswers p hold
        · exact hpairs p hnow
      · simp only [Function.update_self]
        exact hqueued
    · apply (h.requests j).congr
      · simp only [requestPool, Function.update_of_ne hj]
      · simp only [Function.update_of_ne hj]
      · rfl
      · simp only [Function.update_of_ne hj]
  · constructor
    · have hsent : Distinct replyKey sent := by
        rw [← hsnd]
        exact distinct_sent (fun p hp => (hpairs p hp).1)
          (hboth.inside (List.sublist_append_right _ _).subperm)
      exact (h.replies.once.join hsent hnew).inside hpool.subperm
    · intro reply hreply
      rcases List.mem_append.mp (hpool.subset hreply) with hnow | hold
      · rw [← hsnd] at hnow
        obtain ⟨p, hp, rfl⟩ := List.mem_map.mp hnow
        refine ⟨i, p.1, ?_⟩
        simp only [Function.update_self]
        exact List.mem_append_right _ hp
      · obtain ⟨j, req, hmem⟩ := h.replies.origin reply hold
        exact ⟨j, req, hgrow j hmem⟩
  · exact h.distinct
  · intro c hc
    obtain ⟨hreq, hstored, hsize, hnum, hown⟩ := h.waiting c hc
    exact ⟨hreq, hstored, hsize, hnum, hown⟩
  · intro r hr
    exact (h.results r hr).grow hgrow

theorem own_replies {s : Network n σ} (h : Invariant agents s) {req : DataInfoRequest}
    (hreq : req ∈ s.history.asked) {replies : List DataInfoReply}
    (hin : replies.Subperm (replyPool s)) (hown : ∀ reply ∈ replies, isFor req reply = true) :
    (replies.map DataInfoReply.deviceID).Nodup ∧ ∀ reply ∈ replies, ∃ i,
      (req, reply) ∈ s.history.handled i ∧ Produced (agents i) req reply ∧
        reply.deviceID = (agents i).myid ∧ reply.deviceID ∈ req.idList := by
  have hseq : ∀ reply ∈ replies, reply.randomSeq = req.randomSeq := by
    intro reply hreply
    have hfor := hown reply hreply
    simp only [isFor, decide_eq_true_eq] at hfor
    exact hfor.2
  constructor
  · have hkeys : (replies.map replyKey).Nodup := h.replies.once.inside hin
    have hsplit : replies.map replyKey =
        (replies.map DataInfoReply.deviceID).map (·, req.randomSeq) := by
      rw [List.map_map]
      apply List.map_congr_left
      intro reply hreply
      simp only [replyKey, Function.comp_apply, hseq reply hreply]
    rw [hsplit] at hkeys
    exact hkeys.of_map
  · intro reply hreply
    obtain ⟨i, req', hmem⟩ := h.replies.origin reply (hin.subset hreply)
    obtain ⟨⟨hid, -, hsame⟩, hproduced⟩ := (h.requests i).answers _ hmem
    have hasked : req' ∈ s.history.asked :=
      (h.requests i).asked req' (List.mem_append_left _ (List.mem_map_of_mem hmem))
    obtain rfl : req' = req := randomSeq_inj h.distinct hasked hreq
      (hsame.symm.trans (hseq reply hreply))
    refine ⟨i, hmem, hproduced, hid, ?_⟩
    obtain ⟨j, w, w', hfound, -⟩ := hproduced
    have haddressed := foundIdx_some hfound
    rw [hid]
    exact List.contains_iff_mem.mp haddressed

theorem own_replies_length {s : Network n σ} (h : Invariant agents s) {req : DataInfoRequest}
    (hreq : req ∈ s.history.asked) {replies : List DataInfoReply}
    (hin : replies.Subperm (replyPool s)) (hown : ∀ reply ∈ replies, isFor req reply = true) :
    replies.length ≤ req.idList.length := by
  obtain ⟨hnodup, hfrom⟩ := own_replies h hreq hin hown
  have hsub : replies.map DataInfoReply.deviceID ⊆ req.idList := by
    intro id hid
    obtain ⟨reply, hreply, rfl⟩ := List.mem_map.mp hid
    obtain ⟨i, -, -, -, hasked⟩ := hfrom reply hreply
    exact hasked
  have hlen := (List.subperm_of_subset hnodup hsub).length_le
  rwa [List.length_map] at hlen

def gotReplies (s : Network n σ) (req : DataInfoRequest) : List DataInfoReply :=
  (takenOf DataInfoReply.randomSeq req.randomSeq s.reader).filter (isFor req)

theorem polled_inside (s : Network n σ) (req : DataInfoRequest) :
    (s.replies ++ (valid (leftOf DataInfoReply.randomSeq req.randomSeq s.reader) ++
      (s.history.heard ++ gotReplies s req))).Subperm (replyPool s) := by
  let rest := valid (leftOf DataInfoReply.randomSeq req.randomSeq s.reader)
  let all := takenOf DataInfoReply.randomSeq req.randomSeq s.reader
  have hgot : (rest ++ (s.history.heard ++ gotReplies s req)).Subperm
      (rest ++ (s.history.heard ++ all)) :=
    (List.subperm_append_left _).mpr ((List.subperm_append_left _).mpr
      List.filter_sublist.subperm)
  have hperm : (rest ++ (s.history.heard ++ all)).Perm (valid s.reader ++ s.history.heard) := by
    have htaken : (all ++ rest).Perm (valid s.reader) := DdsTransport.takenOf_append_leftOf _ _ _
    have hback : (rest ++ (s.history.heard ++ all)).Perm ((s.history.heard ++ all) ++ rest) :=
      List.perm_append_comm
    rw [List.append_assoc] at hback
    exact hback.trans ((List.Perm.append_left _ htaken).trans List.perm_append_comm)
  exact (List.subperm_append_left _).mpr (hgot.trans hperm.subperm)

/-- A turn of the loop does not write behind the list. -/
theorem poll_spec {s : Network n σ} {c : Waiting} (h : Invariant agents s)
    (hc : s.server = some c) (now : ℤ) :
    ∃ c', pollReplies s.reader now c =
        some (leftOf DataInfoReply.randomSeq c.replys.req.randomSeq s.reader, c') ∧
      c'.replys.req = c.replys.req ∧ c'.replys.list.length = c.idNum ∧ c'.idNum = c.idNum ∧
      c'.startTime = c.startTime ∧ c'.nowTime = now ∧
      Stored c'.replys (s.history.heard ++ gotReplies s c.replys.req) := by
  obtain ⟨hasked, hstored, hsize, hnum, hown⟩ := h.waiting c hc
  have hin := polled_inside s c.replys.req
  have hall : (s.history.heard ++ gotReplies s c.replys.req).Subperm (replyPool s) :=
    ((List.sublist_append_right _ _).trans (List.sublist_append_right _ _)).subperm.trans hin
  have hownAll : ∀ reply ∈ s.history.heard ++ gotReplies s c.replys.req,
      isFor c.replys.req reply = true := by
    intro reply hreply
    rcases List.mem_append.mp hreply with hold | hnew
    · exact hown reply hold
    · exact (List.mem_filter.mp hnew).2
  have hlen := own_replies_length h hasked hall hownAll
  have hdrain := drain_spec hstored
    (takenOf DataInfoReply.randomSeq c.replys.req.randomSeq s.reader)
  simp only [pollReplies, DdsTransport.tryRecvInstance_eq]
  revert hdrain
  cases DdsTransport.runCallback recvReply c.replys
      (takenOf DataInfoReply.randomSeq c.replys.req.randomSeq s.reader) with
  | none =>
    intro hover
    rw [hsize, hnum] at hover
    exact absurd hlen (Nat.not_le.mpr hover)
  | some replys =>
    rintro ⟨hreq, hsize', hstored'⟩
    exact ⟨{ c with replys, nowTime := now }, rfl, hreq, hsize'.trans hsize, rfl, rfl, rfl,
      hstored'⟩

theorem invariant_poll {s s' : Network n σ} {now : ℤ} (h : Invariant agents s)
    (hstep : pollStep replyTimeout now s = some s') : Invariant agents s' := by
  obtain ⟨c, hc, hstep⟩ := Option.bind_eq_some_iff.mp hstep
  by_cases hgo : c.goesOn replyTimeout = true
  · rw [if_pos hgo] at hstep
    obtain ⟨c', hpoll, hreq, hsize, hnum, -, -, hstored⟩ := poll_spec h hc now
    rw [hpoll] at hstep
    obtain rfl := Option.some.inj hstep
    obtain ⟨hasked, -, -, hids, hown⟩ := h.waiting c hc
    have hin := polled_inside s c.replys.req
    constructor
    · intro i
      exact (h.requests i).congr rfl rfl rfl rfl
    · constructor
      · exact h.replies.once.inside hin
      · intro reply hreply
        exact h.replies.origin reply (hin.subset hreply)
    · exact h.distinct
    · intro c₁ hc₁
      obtain rfl : c' = c₁ := Option.some.inj hc₁
      constructor
      · rw [hreq]
        exact hasked
      · exact hstored
      · rw [hnum]
        exact hsize
      · rw [hnum, hreq]
        exact hids
      · intro reply hreply
        rw [hreq]
        rcases List.mem_append.mp hreply with hold | hnew
        · exact hown reply hold
        · exact (List.mem_filter.mp hnew).2
    · intro r hr
      exact (h.results r hr).grow fun _ => List.Subset.refl _
  · rw [if_neg hgo] at hstep
    cases hstep

theorem storedAs_mem {replies : List DataInfoReply} {entries : List ReplyEntry}
    (h : List.Forall₂ StoredAs replies entries) {entry : ReplyEntry} (hentry : entry ∈ entries) :
    ∃ reply ∈ replies, StoredAs reply entry := by
  induction h with
  | nil => cases hentry
  | cons hab _ ih =>
    rcases List.mem_cons.mp hentry with rfl | hrest
    · exact ⟨_, List.mem_cons_self, hab⟩
    · obtain ⟨reply, hreply, hstored⟩ := ih hrest
      exact ⟨reply, List.mem_cons_of_mem _ hreply, hstored⟩

theorem produced_nul_free {agent : Agent σ} {req : DataInfoRequest} {reply : DataInfoReply}
    (h : Produced agent req reply) : nul ∉ reply.msg := by
  obtain ⟨i, w, w', -, hhandle⟩ := h
  exact handle_nul_free hhandle

theorem correct_of_waiting {s : Network n σ} {c : Waiting} (h : Invariant agents s)
    (hc : s.server = some c) :
    Correct agents s.history ⟨c.replys.req, c.replys.list, c.replys.num⟩ := by
  obtain ⟨hasked, hstored, hsize, hnum, hown⟩ := h.waiting c hc
  have hin : s.history.heard.Subperm (replyPool s) :=
    ((List.sublist_append_right _ _).trans (List.sublist_append_right _ _)).subperm
  obtain ⟨hdistinct, hfrom⟩ := own_replies h hasked hin hown
  have hentries : List.Forall₂ StoredAs s.history.heard (c.replys.list.take c.replys.num) := by
    rw [hstored.num]
    exact hstored.entries
  have hids := storedAs_ids hentries
  have hlen : (c.replys.list.take c.replys.num).length = c.replys.num := by
    rw [← hentries.length_eq, hstored.num]
  have hsub : ∀ entry ∈ c.replys.list.take c.replys.num,
      entry.deviceID ∈ c.replys.req.idList := by
    intro entry hentry
    obtain ⟨reply, hreply, hid, -⟩ := storedAs_mem hentries hentry
    obtain ⟨i, -, -, -, hmem⟩ := hfrom reply hreply
    rw [hid]
    exact hmem
  constructor
  · exact hlen
  · change ((c.replys.list.take c.replys.num).map ReplyEntry.deviceID).Nodup
    rw [hids]
    exact hdistinct
  · exact hsub
  · intro entry hentry
    obtain ⟨reply, hreply, hid, dst, htext⟩ := storedAs_mem hentries hentry
    obtain ⟨i, hmem, hproduced, hmyid, -⟩ := hfrom reply hreply
    refine ⟨i, reply, hmem, hproduced, hid.trans hmyid, ?_⟩
    intro hshort
    rw [htext]
    exact CString.cstr_strncpy (produced_nul_free hproduced) hshort
  · intro hfull
    have hsubset : (c.replys.list.take c.replys.num).map ReplyEntry.deviceID ⊆
        c.replys.req.idList := by
      intro id hid
      obtain ⟨entry, hentry, rfl⟩ := List.mem_map.mp hid
      exact hsub entry hentry
    have hnodup : ((c.replys.list.take c.replys.num).map ReplyEntry.deviceID).Nodup := by
      rw [hids]
      exact hdistinct
    apply (List.subperm_of_subset hnodup hsubset).perm_of_length_le
    rw [List.length_map, hlen]
    exact hfull.ge

theorem invariant_ret {s s' : Network n σ} (h : Invariant agents s)
    (hstep : retStep replyTimeout s = some s') : Invariant agents s' := by
  obtain ⟨c, hc, hstep⟩ := Option.bind_eq_some_iff.mp hstep
  by_cases hgo : c.goesOn replyTimeout = true
  · rw [if_pos hgo] at hstep
    cases hstep
  · rw [if_neg hgo] at hstep
    obtain rfl := Option.some.inj hstep
    have hsame : ∀ i, s.history.handled i ⊆ s.history.handled i := fun _ => List.Subset.refl _
    refine ⟨fun i => (h.requests i).congr rfl rfl rfl rfl, ⟨h.replies.once, h.replies.origin⟩,
      h.distinct, nofun, ?_⟩
    intro r hr
    rcases List.mem_cons.mp hr with rfl | hr
    · exact (correct_of_waiting h hc).grow hsame
    · exact (h.results r hr).grow hsame

theorem invariant_step {s s' : Network n σ} {e : Event n} (h : Invariant agents s)
    (hids : Function.Injective fun i => (agents i).myid) (hfresh : FreshSeq s e)
    (hstep : step agents replyTimeout s e = some s') : Invariant agents s' := by
  cases e with
  | call call randomSeq block start => exact invariant_call h hfresh hstep
  | poll now => exact invariant_poll h hstep
  | ret => exact invariant_ret h hstep
  | agentUpdate i => exact invariant_agentUpdate h hids hstep
  | requestArrives i k =>
    obtain ⟨req, hreq, rfl⟩ := Option.map_eq_some_iff.mp hstep
    refine h.move rfl rfl rfl ?_ (.refl _)
    exact requestPool_update (delivered_perm hreq _).subperm
  | requestLost i k =>
    obtain rfl := Option.some.inj hstep
    refine h.move rfl rfl rfl ?_ (.refl _)
    intro j
    by_cases hj : j = i
    · subst hj
      simp only [requestPool, Function.update_self]
      exact (List.subperm_append_right _).mpr (inside_of_eraseIdx _ _)
    · simp only [requestPool, Function.update_of_ne hj]
      exact .refl _
  | requestWriterGone i req =>
    obtain rfl := Option.some.inj hstep
    refine h.move rfl rfl rfl ?_ (.refl _)
    intro j
    by_cases hj : j = i
    · subst hj
      simp only [requestPool, Function.update_self, valid_snoc_gone]
      exact .refl _
    · simp only [requestPool, Function.update_of_ne hj]
      exact .refl _
  | replyArrives k =>
    obtain ⟨reply, hreply, rfl⟩ := Option.map_eq_some_iff.mp hstep
    refine h.move rfl rfl rfl (fun _ => .refl _) ?_
    rw [replyPool, replyPool, ← List.append_assoc, ← List.append_assoc]
    exact ((delivered_perm hreply s.reader).append_right _).subperm
  | replyLost k =>
    obtain rfl := Option.some.inj hstep
    refine h.move rfl rfl rfl (fun _ => .refl _) ?_
    exact (List.subperm_append_right _).mpr (inside_of_eraseIdx _ _)
  | replyWriterGone reply =>
    obtain rfl := Option.some.inj hstep
    refine h.move rfl rfl rfl (fun _ => .refl _) ?_
    simp only [replyPool, valid_snoc_gone]
    exact .refl _
  | replyExpires k =>
    obtain rfl := Option.some.inj hstep
    refine h.move rfl rfl rfl (fun _ => .refl _) ?_
    have hsub : (valid (s.reader.eraseIdx k)).Sublist (valid s.reader) :=
      ((List.eraseIdx_sublist _ _).filter _).map _
    exact (List.subperm_append_left _).mpr ((List.subperm_append_right _).mpr hsub.subperm)

theorem invariant_execution {world : Fin n → σ} {s : Network n σ}
    (hids : Function.Injective fun i => (agents i).myid)
    (h : Execution (step agents replyTimeout) FreshSeq (initial world) s) :
    Invariant agents s :=
  h.invariant (invariant_initial world) fun _ _ _ hi hg hs => invariant_step hi hids hg hs

/-- In every run whose calls have different random sequences, with agents of different IDs, every
result is correct and each agent answers a request at most once. A turn of the loop never
faults, and the first one past the deadline ends the call. An agent that finds at most 15
requests, and whose branches are defined, does not fault. -/
theorem info_calls_correct {world : Fin n → σ} {s : Network n σ}
    (hids : Function.Injective fun i => (agents i).myid)
    (h : Execution (step agents replyTimeout) FreshSeq (initial world) s) :
    (∀ r ∈ s.history.results, Correct agents s.history r) ∧
    (∀ i, ((handledRequests s i).map DataInfoRequest.randomSeq).Nodup) ∧
    (∀ c, s.server = some c → ∀ now, ∃ reader c',
      pollReplies s.reader now c = some (reader, c') ∧
        (now - c.startTime > replyTimeout → c'.goesOn replyTimeout = false)) ∧
    ∀ i, (taken (s.pending i)).length ≤ 15 →
      (answerAll (agents i) (taken (s.pending i)) (s.agent i).world).isSome →
      (datainfoAgentUpdate (agents i) (s.pending i) (s.agent i)).isSome := by
  have hinv := invariant_execution hids h
  refine ⟨hinv.results, ?_, ?_, ?_⟩
  · intro i
    exact (hinv.requests i).once.inside (List.sublist_append_left _ _).subperm
  · intro c hc now
    obtain ⟨c', hpoll, -, -, -, hstart, hnow, -⟩ := poll_spec hinv hc now
    refine ⟨_, c', hpoll, ?_⟩
    intro hlate
    simp [Waiting.goesOn, hstart, hnow, hlate]
  · intro i hroom hdefined
    have hspec := update_spec (agents i) (hinv.requests i).queued (s.pending i)
    cases hupdate : datainfoAgentUpdate (agents i) (s.pending i) (s.agent i) with
    | none =>
      rw [hupdate] at hspec
      exact absurd ⟨fitsRoom_of_length hroom, hdefined⟩ hspec
    | some r => rfl

instance (s : Network n σ) (e : Event n) : Decidable (FreshSeq s e) := by
  cases e <;> unfold FreshSeq <;> infer_instance

def twoAgents (i : Fin 2) : Agent Unit :=
  ⟨i.val + 1, [⟨['k'], some fun w => (['v'], w), none⟩], [], 8, fun _ _ _ => none,
    fun _ _ => none⟩

/-- The first call times out before the reply of agent 1 arrives. The second asks both agents;
the late reply is there before their own, and agent 2 gets the two requests in reverse. -/
def lateReply : List (Event 2) :=
  [.call (.getInfo [1] ['k']) 1 (fun _ => ⟨0, []⟩) 0, .requestArrives 0 0, .agentUpdate 0,
    .poll 20, .ret,
    .call (.getInfo [2, 1] ['k']) 2 (fun _ => ⟨0, []⟩) 20, .replyArrives 0,
    .requestArrives 0 0, .requestArrives 1 1, .requestArrives 1 0, .agentUpdate 0,
    .agentUpdate 1, .replyArrives 1, .replyArrives 0, .poll 21, .ret]

theorem info_calls_correct_late_reply :
    ∃ s r, runEvents (guarded (step twoAgents 10) FreshSeq) (initial fun _ => ()) lateReply =
        some s ∧ r ∈ s.history.results ∧ r.req.randomSeq = 2 ∧ r.infoNum = 2 ∧
      ((Result.entries r).map ReplyEntry.deviceID).Perm [2, 1] ∧
      ∀ entry ∈ Result.entries r, FromAgent twoAgents s.history r.req entry := by
  obtain ⟨s, hs, hexec, r, hmem, hseq, hnum, hlist⟩ := exists_execution (step twoAgents 10)
    FreshSeq (initial fun _ => ()) (fun s => ∃ r ∈ s.history.results,
      r.req.randomSeq = 2 ∧ r.infoNum = 2 ∧ r.req.idList = [2, 1]) lateReply (by decide)
  have hids : Function.Injective fun i => (twoAgents i).myid := by
    intro i j hij
    exact Fin.ext (Nat.succ.inj hij)
  obtain ⟨hresults, -⟩ := info_calls_correct hids hexec
  have hcorrect := hresults r hmem
  refine ⟨s, r, hs, hmem, hseq, hnum, ?_, hcorrect.texts⟩
  rw [← hlist]
  apply hcorrect.complete
  rw [hnum, hlist]
  rfl

end InfoCorrectness
