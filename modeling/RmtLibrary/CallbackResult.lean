import RmtLibrary.FileCalls
import RmtLibrary.RmtServer
import RmtLibrary.TransferCompletion

/-! # What the result of a file transfer says

The server's transfers with `n` agents that answer them. A request that was written may reach an
agent at any time and any number of times, and so may a reply the server. `rmt_server_get_result`
reports `STATUS_DONE` for every reply that was counted, whatever the agent did for it. -/
namespace CallbackResult

open AgentReplies
open CString (Text nul)
open DatainfoAgent
open DdsTransport (Sample taken)
open DeviceRegistry
open DevinfoServer
open FileCalls
open FileTransfer
open GuardedExecution
open Idl (DataInfoType DataInfoRequest DataInfoReply)
open TransferCompletion (tableGetStatus_all status_tableAdd status_tableDel)
open TransferEffects
open TransferHistory (tableMark)

structure Asked where
  callbackname : Text
  filename : Text
  req : DataInfoRequest

/-- The transfers are kept with the latest first. `sent` has the replies the agents wrote, and
`answers` what they did for them. -/
structure System (n : ℕ) (σ : Type) where
  server : FileServer
  agent : Fin n → AgentState σ
  sent : List DataInfoReply
  asked : List Asked
  answers : List (Fin n × Answered)

variable {n : ℕ} {σ : Type}

def initial (world : Fin n → σ) : System n σ :=
  ⟨datainfoServerInit, fun i => datainfoAgentInit (world i), [], [], []⟩

inductive Event (n : ℕ) (σ : Type) where
  | server (e : FileTransfer.Event)
  | agentUpdate (i : Fin n) (pending : List (Sample DataInfoRequest))
  | agentWorld (i : Fin n) (w : σ)

def askedBy (s : FileServer) : FileTransfer.Event → Option Asked
  | .sendFile idList callbackname filename pFile randomSeq now =>
    (datainfoServerSendFile idList callbackname filename pFile randomSeq now s).bind fun r =>
      r.2.2.map (⟨callbackname, filename, ·⟩)
  | .recvFile id callbackname filename randomSeq now =>
    (datainfoServerRecvFile id callbackname filename randomSeq now s).bind fun r =>
      r.2.2.map (⟨callbackname, filename, ·⟩)
  | _ => none

/-- Names are C strings. Transfer requests and replies to them have been written by someone;
those of calls that transfer no file may be any. -/
def Possible (s : System n σ) : Event n σ → Prop
  | .server (.sendFile _ callbackname filename _ _ _) => nul ∉ callbackname ∧ nul ∉ filename
  | .server (.recvFile _ callbackname filename _ _) => nul ∉ callbackname ∧ nul ∉ filename
  | .server (.replyArrives sample) =>
    sample.validData = true → isTransfer sample.data.type = true → sample.data ∈ s.sent
  | .agentUpdate _ pending =>
    ∀ sample ∈ pending, sample.validData = true → isTransfer sample.data.type = true →
      sample.data ∈ s.asked.map Asked.req
  | _ => True

instance (s : System n σ) (e : Event n σ) : Decidable (Possible s e) := by
  unfold Possible
  split <;> infer_instance

def move (agents : Fin n → Agent σ) (replyTimeout : ℤ) (s : System n σ) :
    Event n σ → Option (System n σ)
  | .server e => (serverStep replyTimeout s.server e).map fun server =>
    { s with server, asked := (askedBy s.server e).toList ++ s.asked }
  | .agentUpdate i pending => do
    let (agent, _, sent) ← datainfoAgentUpdate (agents i) pending (s.agent i)
    let did := answered (agents i) (taken pending) (s.agent i).world
    some { s with
      agent := Function.update s.agent i agent
      sent := s.sent ++ sent
      answers := s.answers ++ did.map (i, ·) }
  | .agentWorld i w =>
    some { s with agent := Function.update s.agent i { s.agent i with world := w } }

def step (agents : Fin n → Agent σ) (replyTimeout : ℤ) :
    System n σ → Event n σ → Option (System n σ) :=
  guarded (move agents replyTimeout) Possible

/-- `rmt_server_get_result`. The result is `none` where it is not written. -/
def rmtServerGetResult (status : RmtServer.ServerStatus) (deviceId : ℕ) (registry : Registry) :
    Option (TransferStatus × Option TransferResult) :=
  if status = .running then
    (devinfoServerGetStatusById deviceId registry).map fun (st, res) => (st, some res)
  else some (.serverError, none)

def keyOf : FileTransfer.Event → Option (DataInfoType × ℕ)
  | .sendFile _ _ _ _ randomSeq _ => some (.importFile, randomSeq)
  | .recvFile _ _ _ randomSeq _ => some (.exportFile, randomSeq)
  | _ => none

def key (a : Asked) : DataInfoType × ℕ := (a.req.type, a.req.randomSeq)

/-- No two transfers have the same type and random sequence. A device that is new to the registry
does not wrap the counter, and if a transfer has named it, the memory of its node does not happen
to read as `STATUS_DONE`. -/
def Ok (s : System n σ) : Event n σ → Prop
  | .server (.addDevice chunk msg _) =>
    TransferHistory.registered s.server.registry msg.deviceID = true ∨
      s.server.registry.gDevNum + 1 ≠ 0 ∧ ∀ a ∈ s.asked, msg.deviceID ∈ a.req.idList →
        chunk.agentTransferStatus ≠ .done
  | .server e => s.server.gFileTransferStat.status = 0 →
      ∀ k ∈ keyOf e, k ∉ s.asked.map key
  | _ => True

instance (s : System n σ) (e : Event n σ) : Decidable (Ok s e) := by
  unfold Ok
  split <;> infer_instance

theorem registered_of_done {t : List DevList} {id : ℕ} {res : TransferResult}
    (h : tableGetStatus t.length id t = (.done, res)) : id ∈ ids t := by
  rw [tableGetStatus_all] at h
  cases hf : t.find? (hasId id) with
  | none => simp [hf] at h
  | some dev =>
    obtain ⟨hmem, rfl⟩ := find?_hasId_some hf
    exact List.mem_map_of_mem hmem

theorem done_applyReplies {env : PollEnv} {num id : ℕ} {replies : List DataInfoReply}
    {t : List DevList} {res : TransferResult}
    (h : tableGetStatus num id (applyReplies env num replies t) = (.done, res)) :
    tableGetStatus num id t = (.done, res) ∨
      ∃ reply ∈ replies, reply.deviceID = id ∧ replyStatus env reply = (.done, res) := by
  induction replies generalizing t with
  | nil => exact Or.inl h
  | cons reply replies ih =>
    rcases ih h with hbefore | ⟨r, hr, hid, hst⟩
    · rw [tableGetStatus_set] at hbefore
      split at hbefore
      · next hset => exact Or.inr ⟨reply, List.mem_cons_self, hset.1.symm, hbefore⟩
      · exact Or.inl hbefore
    · exact Or.inr ⟨r, List.mem_cons_of_mem _ hr, hid, hst⟩

theorem done_tableExpire {num id : ℕ} {idList : List ℕ} {t : List DevList}
    {res : TransferResult} (h : tableGetStatus num id (tableExpire num idList t) = (.done, res)) :
    tableGetStatus num id t = (.done, res) := by
  induction idList generalizing t with
  | nil => exact h
  | cons id₁ idList ih =>
    have hfirst := ih h
    rw [tableExpireDevice] at hfirst
    split at hfirst
    · rw [tableGetStatus_set] at hfirst
      split at hfirst
      · cases hfirst
      · exact hfirst
    · exact hfirst

theorem done_polledTable {replyTimeout : ℤ} {env : PollEnv} {s : FileServer} {idList : List ℕ}
    {t : List DevList} {id : ℕ} {res : TransferResult}
    (hnum : s.registry.gDevNum.toNat = t.length)
    (h : tableGetStatus t.length id (polledTable replyTimeout env s idList t) = (.done, res)) :
    tableGetStatus t.length id t = (.done, res) ∨
      ∃ reply ∈ counted s.gFileTransferStat s.reader, reply.deviceID = id ∧
        replyStatus env reply = (.done, res) := by
  rw [polledTable, hnum] at h
  split at h
  · exact done_applyReplies (done_tableExpire h)
  · exact done_applyReplies h

theorem done_tableMark {num id : ℕ} {idList : List ℕ} {t : List DevList} {res : TransferResult}
    (h : tableGetStatus num id (tableMark num idList t) = (.done, res)) :
    tableGetStatus num id t = (.done, res) := by
  induction idList generalizing t with
  | nil => exact h
  | cons id₁ idList ih =>
    have hfirst := ih h
    rw [tableGetStatus_set] at hfirst
    split at hfirst
    · cases hfirst
    · exact hfirst

theorem not_mem_of_done_tableMark {idList : List ℕ} {t : List DevList} {id : ℕ}
    {res : TransferResult}
    (h : tableGetStatus t.length id (tableMark t.length idList t) = (.done, res)) :
    id ∉ idList := by
  intro hid
  have hreg := registered_of_done (done_tableMark h)
  have hrun : (tableGetStatus t.length id (tableMark t.length idList t)).1 = .running := by
    rw [TransferCompletion.running_tableMark, List.take_length, any_hasId]
    exact Or.inl ⟨hid, hreg⟩
  rw [h] at hrun
  cases hrun

/-- A new node that does not read as done hides no device that is. -/
theorem done_tableAdd {t : List DevList} {id : ℕ} {chunk : Chunk} {info : DeviceInfo} {arg : ℕ}
    {res : TransferResult}
    (hnew : id = info.deviceID → info.deviceID ∈ ids t ∨ chunk.agentTransferStatus ≠ .done)
    (h : tableGetStatus (tableAdd chunk info arg t).length id (tableAdd chunk info arg t) =
      (.done, res)) : tableGetStatus t.length id t = (.done, res) := by
  by_cases hknown : id ∈ ids t
  · rwa [status_tableAdd hknown] at h
  · have hreg := registered_of_done h
    rw [ids_tableAdd] at hreg
    split at hreg
    · exact absurd hreg hknown
    · next hfresh =>
      obtain rfl : id = info.deviceID := (List.mem_cons.mp hreg).resolve_right hknown
      have hnone : t.any (hasId info.deviceID) = false := by
        rw [← Bool.not_eq_true, any_hasId]
        exact hknown
      have hstatus : chunk.agentTransferStatus = .done := by
        rw [tableGetStatus_all] at h
        simp only [tableAdd, hnone, Bool.false_eq_true, if_false] at h
        rw [List.find?_cons_of_pos (by simp [hasId])] at h
        exact (Prod.mk.inj h).1
      exact absurd hstatus ((hnew rfl).resolve_left hknown)

theorem poll_reader {replyTimeout : ℤ} {env : PollEnv} {s s' : FileServer} {t : List DevList}
    (ht : HoldsTable s.registry t)
    (h : dataserverInfoFileTransferThread replyTimeout env s = some s') :
    s'.reader ⊆ s.reader := by
  rw [dataserverInfoFileTransferThread] at h
  split at h
  · obtain ⟨registry, hdrain, -⟩ := drainReplies_table env s.gFileTransferStat.randomSeq
      (s.gFileTransferStat.idNum - s.gFileTransferStat.recvNum) s.reader s.gFileTransferStat ht
    simp only [hdrain, Option.bind_eq_bind, Option.bind_some, Option.bind_eq_some_iff] at h
    obtain ⟨r, -, h⟩ := h
    obtain rfl := Option.some.inj h
    exact pollLeft_subset _ _ _
  · obtain rfl := Option.some.inj h
    exact List.Subset.refl _

structure Named (a : Asked) : Prop where
  type : isTransfer a.req.type = true
  msg : a.req.msg = a.callbackname ++ ';' :: a.filename
  text : nul ∉ a.req.msg

/-- The latest transfer that names the device. -/
def latestFor (id : ℕ) (asked : List Asked) : Option Asked :=
  asked.find? fun a => a.req.idList.contains id

theorem latestFor_mem {id : ℕ} {asked : List Asked} {a : Asked} (h : latestFor id asked = some a) :
    a ∈ asked ∧ id ∈ a.req.idList :=
  ⟨List.mem_of_find?_eq_some h, by simpa using List.find?_some h⟩

theorem latestFor_cons_of_mem {id : ℕ} {a : Asked} (h : id ∈ a.req.idList) (asked : List Asked) :
    latestFor id (a :: asked) = some a :=
  List.find?_cons_of_pos (by simpa using h)

theorem latestFor_cons_of_not_mem {id : ℕ} {a : Asked} (h : id ∉ a.req.idList)
    (asked : List Asked) : latestFor id (a :: asked) = latestFor id asked :=
  List.find?_cons_of_neg (by simpa using h)

/-- The result is made from what an agent with the ID replied to the request. -/
def Reported (agents : Fin n → Agent σ) (s : System n σ) (a : Asked) (id : ℕ)
    (res : TransferResult) : Prop :=
  ∃ ans ∈ s.answers, ans.2.req = a.req ∧ (agents ans.1).myid = id ∧
    ∃ env, replyStatus env ans.2.reply = (.done, res)

/-- While a transfer runs, the record is that of the latest. -/
structure RunsFor (stat : FileTransferStat) (a : Asked) : Prop where
  key : (stat.type, stat.randomSeq) = key a
  idList : stat.idList = some a.req.idList
  idNum : a.req.idList.length = stat.idNum

structure Entries (agents : Fin n → Agent σ) (s : System n σ) (t : List DevList) : Prop where
  holds : HoldsTable s.server.registry t
  small : t.length < 2 ^ 32
  distinct : (ids t).Nodup
  done : ∀ id res, tableGetStatus t.length id t = (.done, res) →
    ∀ a, latestFor id s.asked = some a → Reported agents s a id res

/-- What needs none of the conditions: an agent has sent all replies it has made, and the
transfers that were started are named as they were called. -/
structure Orderly (s : System n σ) : Prop where
  agent : ∀ i, Queued (s.agent i) []
  asked : ∀ a ∈ s.asked, Named a

structure Invariant (agents : Fin n → Agent σ) (s : System n σ) : Prop extends Orderly s where
  sent : s.answers.map (fun ans => ans.2.reply) = s.sent.filter (isTransfer ·.type)
  answers : ∀ ans ∈ s.answers, ans.2.req ∈ s.asked.map Asked.req ∧ Handled (agents ans.1) ans.2
  reader : ∀ sample ∈ s.server.reader, sample.validData = true →
    isTransfer sample.data.type = true → sample.data ∈ s.sent
  fresh : (s.asked.map key).Nodup
  record : s.server.gFileTransferStat.status = 0 ∨ s.server.gFileTransferStat.status = 1 ∧
    ∃ a ∈ s.asked.head?, RunsFor s.server.gFileTransferStat a
  entries : ∃ t, Entries agents s t

variable {agents : Fin n → Agent σ} {replyTimeout : ℤ} {s s' : System n σ}

theorem orderly_initial (world : Fin n → σ) : Orderly (initial world) where
  agent i := queued_init (world i)
  asked := by simp [initial]

theorem invariant_initial (world : Fin n → σ) : Invariant agents (initial world) where
  toOrderly := orderly_initial world
  sent := rfl
  answers := by simp [initial]
  reader := by simp [initial, datainfoServerInit]
  fresh := List.nodup_nil
  record := Or.inl rfl
  entries := ⟨[], holdsTable_init, by decide, List.nodup_nil, by simp [initial, latestFor]⟩

theorem Invariant.asked_inj (hi : Invariant agents s) {a b : Asked} (ha : a ∈ s.asked)
    (hb : b ∈ s.asked) (hk : key a = key b) : a = b :=
  List.inj_on_of_nodup_map hi.fresh ha hb hk

theorem start_named {callbackname filename message : Text} {req : DataInfoRequest}
    (hc : nul ∉ callbackname) (hf : nul ∉ filename) (ht : isTransfer req.type = true)
    (hmsg : req.msg = message) (h : transferMessage callbackname filename = some message) :
    Named ⟨callbackname, filename, req⟩ := by
  have htext : message = callbackname ++ ';' :: filename := by
    rw [transferMessage_eq, Option.ite_none_right_eq_some] at h
    exact (Option.some.inj h.2).symm
  refine ⟨ht, hmsg.trans htext, ?_⟩
  rw [hmsg, htext]
  simp only [List.mem_append, List.mem_cons, not_or]
  exact ⟨hc, by decide, hf⟩

/-- What a step of the server does to the transfer: nothing is asked, or an idle server starts
what is asked. -/
theorem askedBy_cases {e : FileTransfer.Event} {server : FileServer}
    (hp : Possible s (.server e)) (hs : serverStep replyTimeout s.server e = some server) :
    (askedBy s.server e = none ∧ ((keyOf e).isSome → server = s.server)) ∨
    ∃ a now, askedBy s.server e = some a ∧ keyOf e = some (key a) ∧ Named a ∧
      s.server.gFileTransferStat.status = 0 ∧ triggerTransfer a.req now s.server = some server := by
  cases e with
  | sendFile idList callbackname filename pFile randomSeq now =>
    obtain ⟨hc, hf⟩ := hp
    obtain ⟨r, hsend, rfl⟩ := Option.map_eq_some_iff.mp hs
    rcases sendFile_cases hsend with ⟨-, rfl⟩ | ⟨hidle, message, hmsg, htrig, hr⟩
    · exact Or.inl ⟨by simp [askedBy, hsend], fun _ => rfl⟩
    · right
      refine ⟨⟨callbackname, filename, _⟩, now, ?_, rfl, start_named hc hf rfl rfl hmsg, hidle,
        htrig⟩
      rw [askedBy, hsend, hr]
      rfl
  | recvFile id callbackname filename randomSeq now =>
    obtain ⟨hc, hf⟩ := hp
    obtain ⟨r, hrecv, rfl⟩ := Option.map_eq_some_iff.mp hs
    rcases recvFile_cases hrecv with ⟨-, rfl⟩ | ⟨hidle, message, hmsg, htrig, hr⟩
    · exact Or.inl ⟨by simp [askedBy, hrecv], fun _ => rfl⟩
    · right
      refine ⟨⟨callbackname, filename, _⟩, now, ?_, rfl, start_named hc hf rfl rfl hmsg, hidle,
        htrig⟩
      rw [askedBy, hrecv, hr]
      rfl
  | _ => exact Or.inl ⟨rfl, fun h => by simp [keyOf] at h⟩

theorem Entries.count {t : List DevList} (h : Entries agents s t) :
    s.server.registry.gDevNum.toNat = t.length := h.holds.count h.small

theorem move_of_step {e : Event n σ} (hs : step agents replyTimeout s e = some s') :
    Possible s e ∧ move agents replyTimeout s e = some s' := by
  rw [step, guarded] at hs
  split at hs
  · next hp => exact ⟨hp, hs⟩
  · cases hs

theorem Queued.of_world {agent : AgentState σ} (h : Queued agent []) (w : σ) :
    Queued { agent with world := w } [] := ⟨h.ring, h.clear⟩

theorem orderly_step {e : Event n σ} (h : Orderly s)
    (hs : step agents replyTimeout s e = some s') : Orderly s' := by
  obtain ⟨hp, hs⟩ := move_of_step hs
  cases e with
  | server e =>
    obtain ⟨server, hserver, rfl⟩ := Option.map_eq_some_iff.mp hs
    refine ⟨h.agent, ?_⟩
    intro a ha
    rcases List.mem_append.mp ha with ha | ha
    · rcases askedBy_cases hp hserver with ⟨hnone, -⟩ | ⟨b, now, hsome, -, hnamed, -⟩
      · simp [hnone] at ha
      · obtain rfl : a = b := by simpa [hsome] using ha
        exact hnamed
    · exact h.asked a ha
  | agentUpdate i pending =>
    obtain ⟨⟨agent, rest, sent⟩, hupdate, hs⟩ := Option.bind_eq_some_iff.mp hs
    obtain rfl := Option.some.inj hs
    have hspec := update_spec (agents i) (h.agent i) pending
    simp only [hupdate] at hspec
    obtain ⟨-, -, hqueued, -⟩ := hspec
    refine ⟨?_, h.asked⟩
    intro j
    by_cases hj : j = i
    · subst hj
      simpa using hqueued
    · simpa [hj] using h.agent j
  | agentWorld i w =>
    obtain rfl := Option.some.inj hs
    refine ⟨?_, h.asked⟩
    intro j
    by_cases hj : j = i
    · subst hj
      simpa using Queued.of_world (h.agent j) w
    · simpa [hj] using h.agent j

theorem invariant_started (hi : Invariant agents s) {a : Asked} {now : ℤ} {server : FileServer}
    (ho : Orderly { s with server, asked := a :: s.asked }) (hnew : key a ∉ s.asked.map key)
    (hs : triggerTransfer a.req now s.server = some server) :
    Invariant agents { s with server, asked := a :: s.asked } := by
  obtain ⟨t, ht⟩ := hi.entries
  obtain ⟨registry, hmark, hs⟩ := Option.bind_eq_some_iff.mp hs
  obtain rfl := Option.some.inj hs
  obtain ⟨registry', hmark', ht', -⟩ := TransferHistory.markRunning_table a.req.idList ht.holds
  obtain rfl : registry' = registry := Option.some.inj (hmark'.symm.trans hmark)
  rw [ht.count] at ht'
  have hids := TransferCompletion.ids_tableMark t.length a.req.idList t
  have hlen := TransferCompletion.length_of_ids hids
  refine ⟨ho, hi.sent, ?_, hi.reader, List.nodup_cons.mpr ⟨hnew, hi.fresh⟩,
    Or.inr ⟨rfl, a, rfl, rfl, rfl, rfl⟩, _, ht', ?_, ?_, ?_⟩
  · intro ans hans
    obtain ⟨hreq, hhandled⟩ := hi.answers ans hans
    exact ⟨List.mem_cons_of_mem _ hreq, hhandled⟩
  · rw [hlen]
    exact ht.small
  · rw [hids]
    exact ht.distinct
  · -- the devices that the transfer names are running
    intro id res hdone b hb
    rw [hlen] at hdone
    rw [latestFor_cons_of_not_mem (not_mem_of_done_tableMark hdone)] at hb
    exact ht.done id res (done_tableMark hdone) b hb

/-- A counted reply was made for the latest transfer, by an agent that it names. -/
theorem reported_of_counted (hi : Invariant agents s) {a : Asked} (ha : a ∈ s.asked.head?)
    (hrun : RunsFor s.server.gFileTransferStat a) {reply : DataInfoReply}
    (hreply : reply ∈ counted s.server.gFileTransferStat s.server.reader) {env : PollEnv}
    {res : TransferResult} (hst : replyStatus env reply = (.done, res)) :
    reply.deviceID ∈ a.req.idList ∧ Reported agents s a reply.deviceID res := by
  have hmem : a ∈ s.asked := List.mem_of_mem_head? ha
  obtain ⟨htaken, hfor⟩ := List.mem_filter.mp hreply
  obtain ⟨htype, hseq⟩ : reply.type = s.server.gFileTransferStat.type ∧
      reply.randomSeq = s.server.gFileTransferStat.randomSeq := by simpa [isFor] using hfor
  have hkey : (reply.type, reply.randomSeq) = key a := by rw [htype, hseq, hrun.key]
  have htransfer : isTransfer reply.type = true := by
    rw [(Prod.mk.inj hkey).1]
    exact (hi.asked a hmem).type
  have hsent : reply ∈ s.answers.map fun ans => ans.2.reply := by
    rw [hi.sent]
    exact List.mem_filter.mpr
      ⟨hi.reader ⟨true, reply⟩ (mem_pollTaken htaken) rfl htransfer, htransfer⟩
  obtain ⟨ans, hans, rfl⟩ := List.mem_map.mp hsent
  obtain ⟨hreq, hhandled⟩ := hi.answers ans hans
  obtain ⟨b, hb, hbreq⟩ := List.mem_map.mp hreq
  have hsame : key b = key a := by
    rw [← hkey, hhandled.type, hhandled.randomSeq, ← hbreq]
    rfl
  obtain rfl := hi.asked_inj hb hmem hsame
  refine ⟨?_, ans, hans, hbreq.symm, hhandled.device.symm, env, hst⟩
  rw [hhandled.device, hbreq]
  exact hhandled.addressed

theorem invariant_polled (hi : Invariant agents s) {env : PollEnv} {server : FileServer}
    (hs : dataserverInfoFileTransferThread replyTimeout env s.server = some server) :
    Invariant agents { s with server } := by
  obtain ⟨t, ht⟩ := hi.entries
  rcases hi.record with hidle | ⟨hone, a, ha, hrun⟩
  · have hnot : s.server.gFileTransferStat.status ≠ 1 := by omega
    obtain rfl : s.server = server := Option.some.inj
      ((TransferHistory.poll_idle replyTimeout env hnot).symm.trans hs)
    exact hi
  · obtain ⟨s₁, hpoll, ht₁, -, hstat⟩ :=
      poll_running replyTimeout env ht.holds hone hrun.idList hrun.idNum
    obtain rfl : s₁ = server := Option.some.inj (hpoll.symm.trans hs)
    have hids := TransferCompletion.ids_polledTable replyTimeout env s.server a.req.idList t
    have hlen := TransferCompletion.length_of_ids hids
    refine ⟨⟨hi.agent, hi.asked⟩, hi.sent, hi.answers, ?_, hi.fresh, ?_, _, ht₁, ?_, ?_, ?_⟩
    · intro sample hm
      exact hi.reader sample (poll_reader ht.holds hs hm)
    · simp only [hstat]
      split
      · exact Or.inl rfl
      · exact Or.inr ⟨rfl, a, ha, hrun.key, rfl, hrun.idNum⟩
    · rw [hlen]
      exact ht.small
    · rw [hids]
      exact ht.distinct
    · intro id res hdone b hb
      rw [hlen] at hdone
      rcases done_polledTable ht.count hdone with hbefore | ⟨reply, hreply, rfl, hst⟩
      · exact ht.done id res hbefore b hb
      · obtain ⟨hnames, hreported⟩ := reported_of_counted hi ha hrun hreply hst
        obtain ⟨asked, hasked⟩ := List.head?_eq_some_iff.mp ha
        rw [hasked, latestFor_cons_of_mem hnames] at hb
        obtain rfl := Option.some.inj hb
        exact hreported

theorem invariant_added (hi : Invariant agents s) {chunk : Chunk} {msg : Idl.DeviceInfoMsg}
    {arg : ℕ} (hok : Ok s (.server (.addDevice chunk msg arg))) {registry : Registry}
    (hs : addDevice chunk msg arg s.server.registry = some registry) :
    Invariant agents { s with server := { s.server with registry } } := by
  obtain ⟨t, ht⟩ := hi.entries
  obtain ⟨registry', hadd, ht'⟩ := addDevice_table ht.holds chunk msg arg
  obtain rfl : registry' = registry := Option.some.inj (hadd.symm.trans hs)
  have hok' : msg.deviceID ∈ ids t ∨ s.server.registry.gDevNum + 1 ≠ 0 ∧
      ∀ a ∈ s.asked, msg.deviceID ∈ a.req.idList → chunk.agentTransferStatus ≠ .done := by
    rw [← any_hasId, ← TransferHistory.registered_table ht.holds]
    exact hok
  refine ⟨⟨hi.agent, hi.asked⟩, hi.sent, hi.answers, hi.reader, hi.fresh, hi.record,
    _, ht', ?_, ?_, ?_⟩
  · exact TransferCompletion.length_tableAdd_lt ht.holds ht.small chunk (copyInfo msg) arg
      (hok'.imp_right And.left)
  · rw [ids_tableAdd]
    split
    · exact ht.distinct
    · next hnew => exact List.nodup_cons.mpr ⟨hnew, ht.distinct⟩
  · intro id res hdone a ha
    refine ht.done id res (done_tableAdd ?_ hdone) a ha
    rintro rfl
    obtain ⟨hmem, hid⟩ := latestFor_mem ha
    exact hok'.imp_right fun h => h.2 a hmem hid

theorem invariant_deleted (hi : Invariant agents s) {internalId : ℕ} {registry : Registry}
    (hs : delDevice internalId s.server.registry = some registry) :
    Invariant agents { s with server := { s.server with registry } } := by
  obtain ⟨t, ht⟩ := hi.entries
  obtain ⟨registry', hdel, ht'⟩ := delDevice_table ht.holds internalId
  obtain rfl : registry' = registry := Option.some.inj (hdel.symm.trans hs)
  refine ⟨⟨hi.agent, hi.asked⟩, hi.sent, hi.answers, hi.reader, hi.fresh, hi.record,
    _, ht', ?_, ?_, ?_⟩
  · exact lt_of_le_of_lt List.length_eraseP_le ht.small
  · exact ht.distinct.sublist (List.eraseP_sublist.map _)
  · intro id res hdone a ha
    rw [status_tableDel ht.distinct (registered_of_done hdone)] at hdone
    exact ht.done id res hdone a ha

theorem invariant_server (hi : Invariant agents s) {e : FileTransfer.Event}
    (hp : Possible s (.server e)) (hok : Ok s (.server e)) {server : FileServer}
    (hs : serverStep replyTimeout s.server e = some server)
    (ho : Orderly { s with server, asked := (askedBy s.server e).toList ++ s.asked }) :
    Invariant agents { s with server, asked := (askedBy s.server e).toList ++ s.asked } := by
  rcases askedBy_cases hp hs with ⟨hnone, hsame⟩ | ⟨a, now, hasked, hkey, -, hidle, htrig⟩
  · rw [hnone]
    cases e with
    | sendFile => exact hsame rfl ▸ hi
    | recvFile => exact hsame rfl ▸ hi
    | poll env => exact invariant_polled hi hs
    | replyArrives sample =>
      obtain rfl := Option.some.inj hs
      refine ⟨⟨hi.agent, hi.asked⟩, hi.sent, hi.answers, ?_, hi.fresh, hi.record,
        hi.entries.imp fun t ht => ⟨ht.holds, ht.small, ht.distinct, ht.done⟩⟩
      intro sample' hm
      rcases List.mem_append.mp hm with hm | hm
      · exact hi.reader sample' hm
      · obtain rfl := List.mem_singleton.mp hm
        exact hp
    | addDevice chunk msg arg =>
      obtain ⟨registry, hadd, rfl⟩ := Option.map_eq_some_iff.mp hs
      exact invariant_added hi hok hadd
    | delDevice internalId =>
      obtain ⟨registry, hdel, rfl⟩ := Option.map_eq_some_iff.mp hs
      exact invariant_deleted hi hdel
  · rw [hasked] at ho ⊢
    have hnew : key a ∉ s.asked.map key := by
      cases e with
      | sendFile => exact hok hidle _ hkey
      | recvFile => exact hok hidle _ hkey
      | _ => simp [keyOf] at hkey
    exact invariant_started hi ho hnew htrig

theorem invariant_agentUpdate (hi : Invariant agents s) {i : Fin n}
    {pending rest : List (Sample DataInfoRequest)} (hp : Possible s (.agentUpdate i pending))
    {agent : AgentState σ} {sent : List DataInfoReply}
    (hs : datainfoAgentUpdate (agents i) pending (s.agent i) = some (agent, rest, sent))
    (ho : Orderly { s with
      agent := Function.update s.agent i agent
      sent := s.sent ++ sent
      answers := s.answers ++
        (answered (agents i) (taken pending) (s.agent i).world).map (i, ·) }) :
    Invariant agents { s with
      agent := Function.update s.agent i agent
      sent := s.sent ++ sent
      answers := s.answers ++
        (answered (agents i) (taken pending) (s.agent i).world).map (i, ·) } := by
  have hupdate := update_spec (agents i) (hi.agent i) pending
  simp only [hs] at hupdate
  obtain ⟨-, hall, -, -⟩ := hupdate
  obtain ⟨hreplies, hdid⟩ := answered_spec hall
  refine ⟨ho, ?_, ?_, ?_, hi.fresh, hi.record, ?_⟩
  · rw [List.map_append, List.map_map, hi.sent, List.filter_append]
    exact congrArg (s.sent.filter _ ++ ·) hreplies
  · intro ans hans
    rcases List.mem_append.mp hans with hans | hans
    · exact hi.answers ans hans
    · obtain ⟨a, ha, rfl⟩ := List.mem_map.mp hans
      obtain ⟨htaken, hhandled⟩ := hdid a ha
      obtain ⟨sample, hm, hdata⟩ := List.mem_map.mp htaken
      refine ⟨?_, hhandled⟩
      rw [← hdata]
      exact hp sample ((List.takeWhile_sublist _).subset hm) (List.mem_takeWhile_imp hm)
        (hdata ▸ hhandled.transfer)
  · intro sample hm hv ht
    exact List.mem_append_left _ (hi.reader sample hm hv ht)
  · obtain ⟨t, ht⟩ := hi.entries
    refine ⟨t, ht.holds, ht.small, ht.distinct, ?_⟩
    intro id res hdone a ha
    obtain ⟨ans, hans, hreported⟩ := ht.done id res hdone a ha
    exact ⟨ans, List.mem_append_left _ hans, hreported⟩

theorem invariant_step {e : Event n σ} (hi : Invariant agents s) (hok : Ok s e)
    (hs : step agents replyTimeout s e = some s') : Invariant agents s' := by
  have ho := orderly_step hi.toOrderly hs
  obtain ⟨hp, hs⟩ := move_of_step hs
  cases e with
  | server e =>
    obtain ⟨server, hserver, rfl⟩ := Option.map_eq_some_iff.mp hs
    exact invariant_server hi hp hok hserver ho
  | agentUpdate i pending =>
    obtain ⟨⟨agent, rest, sent⟩, hupdate, hs⟩ := Option.bind_eq_some_iff.mp hs
    obtain rfl := Option.some.inj hs
    exact invariant_agentUpdate hi hp hupdate ho
  | agentWorld i w =>
    obtain rfl := Option.some.inj hs
    exact ⟨ho, hi.sent, hi.answers, hi.reader, hi.fresh, hi.record,
      hi.entries.imp fun t ht => ⟨ht.holds, ht.small, ht.distinct, ht.done⟩⟩

theorem invariant_execution {world : Fin n → σ}
    (h : Execution (step agents replyTimeout) Ok (initial world) s) : Invariant agents s :=
  h.invariant (invariant_initial world) fun _ _ _ hi hok hs => invariant_step hi hok hs

theorem reported_of_result (hi : Invariant agents s) {a : Asked} {id : ℕ}
    (ha : latestFor id s.asked = some a) {status : RmtServer.ServerStatus} {res : TransferResult}
    (hget : rmtServerGetResult status id s.server.registry = some (.done, some res)) :
    Reported agents s a id res := by
  obtain ⟨t, ht⟩ := hi.entries
  apply ht.done id res _ a ha
  rw [rmtServerGetResult] at hget
  split at hget
  · simpa [getStatusById_table ht.holds, ht.count, Prod.ext_iff] using hget
  · simp at hget

theorem replyStatus_result (env : PollEnv) (reply : DataInfoReply) :
    (replyStatus env reply).2.result = (CString.atoi reply.msg).toInt := by
  unfold replyStatus
  split
  · rfl
  · split <;> rfl
  · rfl

/-- Wherever `STATUS_DONE` is reported for a device that a transfer has named, an agent with its ID
answered the latest of these. The result is what the import or export function of the requested
name returned for this transfer, if and only if the agent serves that name. -/
theorem done_is_callbacks_result_iff {world : Fin n → σ}
    (h : Execution (step agents replyTimeout) Ok (initial world) s) {a : Asked} {id : ℕ}
    (ha : latestFor id s.asked = some a) {status : RmtServer.ServerStatus} {res : TransferResult}
    (hget : rmtServerGetResult status id s.server.registry = some (.done, some res)) :
    ∃ ans ∈ s.answers, ans.2.req = a.req ∧ (agents ans.1).myid = id ∧
      res.result = (CString.atoi ans.2.reply.msg).toInt ∧
      ((∃ result, ⟨a.req.type, a.callbackname, result⟩ ∈ ans.2.calls ∧
        res.result = result.toInt) ↔ Serves (agents ans.1) a.req.type a.callbackname) := by
  have hi := invariant_execution h
  obtain ⟨ans, hans, hreq, hdevice, env, henv⟩ := reported_of_result hi ha hget
  have hres : res.result = (CString.atoi ans.2.reply.msg).toInt := by
    rw [← replyStatus_result env, henv]
  refine ⟨ans, hans, hreq, hdevice, hres, ?_⟩
  have hnamed := hi.asked a (latestFor_mem ha).1
  obtain ⟨i, w, w', hbranch⟩ := (hi.answers ans hans).2.branch
  rw [hreq] at hbranch
  rw [hres]
  exact handle_calls hnamed.type hnamed.msg hnamed.text hbranch

def bareAgent : Agent Unit := ⟨5, [], [], 1024, fun _ _ _ => none, fun _ _ => none⟩

def importAgent : Agent Unit :=
  { bareAgent with fileinfoFuncMaps := [⟨['c'], none, some fun _ _ _ w => (-7, w), none⟩] }

def fileRequest : DataInfoRequest := ⟨[5], .importFile, 3, ['c', ';', 'f'], []⟩

def oneTransfer (answer : Text) : List (Event 1 Unit) :=
  [.server (TransferHistory.announceDevice 5), .server (.sendFile [5] ['c'] ['f'] [] 3 100),
    .agentUpdate 0 [⟨true, fileRequest⟩],
    .server (.replyArrives ⟨true, 5, .importFile, 3, answer, []⟩),
    .server (.poll ⟨101, fun _ => true, emptyResult⟩)]

def twoTransfers : List (Event 1 Unit) :=
  .agentUpdate 0 [⟨true, [5], .get, 9, ['k', ';'], []⟩] :: oneTransfer ['-', '7'] ++
    [.server (.sendFile [6] ['c'] ['f'] [] 4 102)]

theorem done_is_callbacks_result_import :
    ∃ s : System 1 Unit, s.asked.length = 2 ∧ ∃ ans ∈ s.answers, ∃ result,
      ⟨.importFile, ['c'], result⟩ ∈ ans.2.calls ∧ (-7 : ℤ) = result.toInt := by
  obtain ⟨s, -, hex, hlen, hreq, hname, hget⟩ := exists_execution
    (step (fun _ : Fin 1 => importAgent) 10) Ok (initial fun _ => ())
    (fun s => s.asked.length = 2 ∧ (latestFor 5 s.asked).map Asked.req = some fileRequest ∧
      (latestFor 5 s.asked).map Asked.callbackname = some ['c'] ∧
      rmtServerGetResult .running 5 s.server.registry = some (.done, some ⟨-7, none, 0⟩))
    twoTransfers (by decide +kernel)
  obtain ⟨a, ha, hareq⟩ := Option.map_eq_some_iff.mp hreq
  have hc : a.callbackname = ['c'] := by simpa [ha] using hname
  obtain ⟨ans, hans, -, -, -, hiff⟩ := done_is_callbacks_result_iff hex ha hget
  have hserves : Serves importAgent .importFile ['c'] :=
    ⟨by decide, by decide, _, rfl, rfl⟩
  rw [hareq, hc] at hiff
  exact ⟨s, hlen, ans, hans, hiff.mpr hserves⟩

/-- The agent has no file map at all, and the server is told that its function returned 0. -/
theorem unserved_transfer_done :
    ∃ s, Execution (step (fun _ : Fin 1 => bareAgent) 10) Ok (initial fun _ => ()) s ∧
      rmtServerGetResult .running 5 s.server.registry = some (.done, some ⟨0, none, 0⟩) ∧
      s.answers.map (fun ans => ans.2.calls) = [[]] := by
  obtain ⟨s, -, hex, hget⟩ := exists_execution (step (fun _ : Fin 1 => bareAgent) 10) Ok
    (initial fun _ => ())
    (fun s => rmtServerGetResult .running 5 s.server.registry =
      some (.done, some ⟨0, none, 0⟩) ∧ s.answers.map (fun ans => ans.2.calls) = [[]])
    (oneTransfer []) (by decide +kernel)
  exact ⟨s, hex, hget⟩

end CallbackResult
