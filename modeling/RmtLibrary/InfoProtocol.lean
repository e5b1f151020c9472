import RmtLibrary.AgentReplies
import RmtLibrary.ReplyCollection
import Mathlib.Data.Fintype.Basic

/-! # Information calls over the network

One server makes `rmt_server_get_info`, `rmt_server_set_info` and
`rmt_server_set_info_with_same_value` one after another, `n` agents run `datainfo_agent_update`.
A written sample reaches each reader at most once and unaltered, at any time and in any order. -/
namespace InfoProtocol

open AgentReplies (expectsReply)
open DatainfoAgent
open DatainfoServer
open DdsTransport (Sample taken takenOf)
open Idl (DataInfoRequest DataInfoReply)
open ReplyCollection (InfoCall isFor)

/-- What a call handed back: the list, of which the first `infoNum` entries count. -/
structure Result where
  req : DataInfoRequest
  list : List ReplyEntry
  infoNum : ℕ
  deriving DecidableEq, Repr

/-- What the code does not keep: the requests sent, the latest first, what each agent answered,
the replies the present call has stored, and what the calls handed back. -/
structure History (n : ℕ) where
  asked : List DataInfoRequest
  handled : Fin n → List (DataInfoRequest × DataInfoReply)
  heard : List DataInfoReply
  results : List Result

/-- `server` is the call that waits, if there is one. `requests` and `replies` are written and
not yet delivered, `pending` and `reader` are what the readers of the agents and of the server
hold. -/
structure Network (n : ℕ) (σ : Type) where
  server : Option Waiting
  reader : List (Sample DataInfoReply)
  replies : List DataInfoReply
  requests : Fin n → List DataInfoRequest
  pending : Fin n → List (Sample DataInfoRequest)
  agent : Fin n → AgentState σ
  history : History n

variable {n : ℕ} {σ : Type}

def initial (world : Fin n → σ) : Network n σ :=
  ⟨none, [], [], fun _ => [], fun _ => [], fun i => datainfoAgentInit (world i),
    ⟨[], fun _ => [], [], []⟩⟩

inductive Event (n : ℕ) where
  | call (call : InfoCall) (randomSeq : ℕ) (block : ℕ → ReplyEntry) (start : ℤ)
  | poll (now : ℤ)
  | ret
  | agentUpdate (i : Fin n)
  | requestArrives (i : Fin n) (k : ℕ)
  | requestLost (i : Fin n) (k : ℕ)
  | requestWriterGone (i : Fin n) (req : DataInfoRequest)
  | replyArrives (k : ℕ)
  | replyLost (k : ℕ)
  | replyWriterGone (reply : DataInfoReply)
  | replyExpires (k : ℕ)

def beginCall (call : InfoCall) (randomSeq : ℕ) (block : ℕ → ReplyEntry) (start : ℤ)
    (s : Network n σ) : Option (Network n σ) :=
  if s.server.isSome then none
  else (call.request randomSeq).map fun req =>
    { s with
      server := some (startWaiting req call.idNum block start)
      requests := fun i => s.requests i ++ [req]
      history := { s.history with asked := req :: s.history.asked, heard := [] } }

def pollStep (replyTimeout now : ℤ) (s : Network n σ) : Option (Network n σ) := do
  let c ← s.server
  if c.goesOn replyTimeout then
    let (reader, c') ← pollReplies s.reader now c
    let got := (takenOf DataInfoReply.randomSeq c.replys.req.randomSeq s.reader).filter
      (isFor c.replys.req)
    some { s with
      server := some c'
      reader
      history := { s.history with heard := s.history.heard ++ got } }
  else none

def retStep (replyTimeout : ℤ) (s : Network n σ) : Option (Network n σ) := do
  let c ← s.server
  if c.goesOn replyTimeout then none
  else
    let result := ⟨c.replys.req, c.replys.list, c.replys.num⟩
    some { s with
      server := none
      history := { s.history with results := result :: s.history.results } }

def agentStep (agents : Fin n → Agent σ) (i : Fin n) (s : Network n σ) :
    Option (Network n σ) := do
  let (agent, rest, sent) ← datainfoAgentUpdate (agents i) (s.pending i) (s.agent i)
  let answered := ((taken (s.pending i)).filter (expectsReply (agents i))).zip sent
  some { s with
    agent := Function.update s.agent i agent
    pending := Function.update s.pending i rest
    replies := s.replies ++ sent
    history := { s.history with
      handled := Function.update s.history.handled i (s.history.handled i ++ answered) } }

def step (agents : Fin n → Agent σ) (replyTimeout : ℤ) (s : Network n σ) :
    Event n → Option (Network n σ)
  | .call call randomSeq block start => beginCall call randomSeq block start s
  | .poll now => pollStep replyTimeout now s
  | .ret => retStep replyTimeout s
  | .agentUpdate i => agentStep agents i s
  | .requestArrives i k => ((s.requests i)[k]?).map fun req =>
    { s with
      requests := Function.update s.requests i ((s.requests i).eraseIdx k)
      pending := Function.update s.pending i (s.pending i ++ [⟨true, req⟩]) }
  | .requestLost i k =>
    some { s with requests := Function.update s.requests i ((s.requests i).eraseIdx k) }
  | .requestWriterGone i req =>
    some { s with pending := Function.update s.pending i (s.pending i ++ [⟨false, req⟩]) }
  | .replyArrives k => s.replies[k]?.map fun reply =>
    { s with replies := s.replies.eraseIdx k, reader := s.reader ++ [⟨true, reply⟩] }
  | .replyLost k => some { s with replies := s.replies.eraseIdx k }
  | .replyWriterGone reply => some { s with reader := s.reader ++ [⟨false, reply⟩] }
  | .replyExpires k => some { s with reader := s.reader.eraseIdx k }

end InfoProtocol
