import RmtLibrary.ReplyCollection
import RmtLibrary.TransferEffects
import Mathlib.Logic.Function.Basic

/-! # Calls from several threads and processes

The calls of `datainfo_server.c` and the poll of the receive thread, one statement a step, so
that threads may interleave anywhere. Within a process the request record of each function is a
`static`, and the transfer record and the state of `rand` are shared by all threads. Every server
process of the domain has its own reader, which gets every reply. -/
namespace ConcurrentCalls

open CString (Text)
open DatainfoServer (DataInfo)
open FileTransfer (FileTransferStat)
open Idl (DataInfoType DataInfoRequest DataInfoReply)

/-- `srand` and `rand` of the C library, with the state they keep. -/
structure RandLib (ρ : Type) where
  srand : ℤ → ρ
  rand : ρ → ℕ × ρ

variable {ρ : Type}

inductive Fn where
  | getInfo
  | setInfo
  | setInfoWithSameValue
  | sendFile
  | recvFile
  deriving DecidableEq, Repr

def Fn.type : Fn → DataInfoType
  | .getInfo => .get
  | .setInfo => .set
  | .setInfoWithSameValue => .setSameValue
  | .sendFile => .importFile
  | .recvFile => .exportFile

def Fn.isFile : Fn → Bool
  | .sendFile | .recvFile => true
  | _ => false

theorem Fn.type_injective {fn fn' : Fn} (h : fn.type = fn'.type) : fn = fn' := by
  cases fn <;> cases fn' <;> first | rfl | cases h

inductive ServerCall where
  | getInfo (idList : List ℕ) (keyList : Text)
  | setInfo (devList : List DataInfo)
  | setInfoWithSameValue (idList : List ℕ) (valueList : Text)
  | sendFile (idList : List ℕ) (callbackname filename : Text) (pFile : List UInt8)
  | recvFile (id : ℕ) (callbackname filename : Text)
  deriving DecidableEq, Repr

def ServerCall.fn : ServerCall → Fn
  | .getInfo .. => .getInfo
  | .setInfo .. => .setInfo
  | .setInfoWithSameValue .. => .setInfoWithSameValue
  | .sendFile .. => .sendFile
  | .recvFile .. => .recvFile

def ServerCall.idList : ServerCall → List ℕ
  | .getInfo idList _ => idList
  | .setInfo devList => devList.map DataInfo.deviceID
  | .setInfoWithSameValue idList _ => idList
  | .sendFile idList _ _ _ => idList
  | .recvFile id _ _ => [id]

/-- `none` if the text does not fit the buffer it is built in. -/
def ServerCall.message : ServerCall → Option Text
  | .getInfo _ keyList => some keyList
  | .setInfo devList => DatainfoServer.setInfoBuffer devList
  | .setInfoWithSameValue _ valueList => some valueList
  | .sendFile _ callbackname filename _ => FileTransfer.transferMessage callbackname filename
  | .recvFile _ callbackname filename => FileTransfer.transferMessage callbackname filename

def ServerCall.binary : ServerCall → List UInt8
  | .sendFile _ _ _ pFile => pFile
  | _ => []

/-- A reply, and the call whose request it answers, which the code does not know. -/
structure Reply where
  owner : ℕ
  reply : DataInfoReply
  deriving DecidableEq, Repr

inductive Pc where
  | checkStatus
  | message
  | idList
  | msg
  | type
  | srand
  | randomSeq
  | binary
  | instanceKey
  | sendRequest
  | startTime
  | loopTest
  | drain
  | received (r : Reply)
  | nowTime
  | sendTransfer
  | statStatus
  | statRecvNum
  | statRandomSeq
  | statType
  | statIdNum
  | statIdList
  | statStartTime
  | returned
  deriving DecidableEq, Repr

/-- A call of a process with its local variables. `drawn` is what its `rand` returned. -/
structure Call where
  process : ℕ
  args : ServerCall
  pc : Pc
  message : Text
  instanceKey : ℕ
  num : ℕ
  startTime : ℤ
  nowTime : ℤ
  drawn : Option ℕ
  deriving DecidableEq, Repr

def Call.goto (c : Call) (pc : Pc) : Call := { c with pc }

/-- The file functions test the status of the transfer record before anything else. -/
def begin (process : ℕ) (args : ServerCall) : Call :=
  ⟨process, args, if args.fn.isFile then .checkStatus else .message, [], 0, 0, 0, 0, none⟩

inductive PollPc where
  | idle
  | test (key : ℕ)
  | init (key : ℕ)
  | loop (key i : ℕ)
  | drain (key i : ℕ)
  | received (key i : ℕ) (r : Reply)
  | count
  | done
  | deadline
  | expire
  | free
  | clearIdList
  | clearIdNum
  deriving DecidableEq, Repr

def PollPc.key : PollPc → Option ℕ
  | .test key | .init key | .loop key _ | .drain key _ | .received key _ _ => some key
  | _ => none

/-- What the threads of a process share. The code does not keep `owner`, the call that set the
status of the transfer record last, and `running`, the calls whose transfer has not ended. -/
structure Process (ρ : Type) where
  static : Fn → DataInfoRequest
  rand : ρ
  stat : FileTransferStat
  poll : PollPc
  inFlight : List Reply
  reader : List Reply
  owner : Option ℕ
  running : List ℕ

/-- The calls are named by their place in the list. `recorded` has, for each reply that was
recorded, the call it was recorded for and the call whose request it answers. `lost` has the
calls that lost a reply to the drain of another one. -/
structure System (ρ : Type) where
  process : ℕ → Process ρ
  calls : List Call
  requests : List (ℕ × DataInfoRequest)
  recorded : List (Option ℕ × ℕ)
  lost : List ℕ

def initial (G : RandLib ρ) : System ρ :=
  ⟨fun _ => ⟨fun _ => ⟨[], .get, 0, [], []⟩, G.srand 1,
    FileTransfer.datainfoServerInit.gFileTransferStat, .idle, [], [], none, []⟩, [], [], [], []⟩

def Process.write (P : Process ρ) (fn : Fn) (req : DataInfoRequest) : Process ρ :=
  { P with static := Function.update P.static fn req }

@[simp]
theorem Process.write_same (P : Process ρ) (fn : Fn) (req : DataInfoRequest) :
    (P.write fn req).static fn = req := Function.update_self _ _ _

@[simp]
theorem Process.write_other (P : Process ρ) {fn fn' : Fn} (req : DataInfoRequest)
    (h : fn' ≠ fn) : (P.write fn req).static fn' = P.static fn' := Function.update_of_ne h _ _

@[simp]
theorem Process.write_stat (P : Process ρ) (fn : Fn) (req : DataInfoRequest) :
    (P.write fn req).stat = P.stat := rfl

/-- The next statement of call `i`, but for the drain of the reader. The marks in the device
registry are left out. -/
def opStep (G : RandLib ρ) (replyTimeout now : ℤ) (i : ℕ) (P : Process ρ) (c : Call) :
    Option (Process ρ × Call) :=
  let fn := c.args.fn
  let req := P.static fn
  match c.pc with
  | .checkStatus => some (P, c.goto (if P.stat.status ≠ 0 then .returned else .message))
  | .message => c.args.message.map fun message => (P, { c with message, pc := .idList })
  | .idList => some (P.write fn { req with idList := c.args.idList }, c.goto .msg)
  | .msg => some (P.write fn { req with msg := c.message }, c.goto .type)
  | .type => some (P.write fn { req with type := fn.type }, c.goto .srand)
  | .srand => some ({ P with rand := G.srand now }, c.goto .randomSeq)
  | .randomSeq =>
    let (randomSeq, rand) := G.rand P.rand
    some ({ P.write fn { req with randomSeq } with rand },
      { c with drawn := some randomSeq, pc := .binary })
  | .binary =>
    some (P.write fn { req with binary := c.args.binary },
      c.goto (if fn.isFile then .sendTransfer else .instanceKey))
  | .instanceKey => some (P, { c with instanceKey := req.randomSeq, pc := .sendRequest })
  | .sendRequest => some (P, c.goto .startTime)
  | .startTime => some (P, { c with startTime := now, nowTime := now, pc := .loopTest })
  | .loopTest =>
    let goesOn := c.num ≠ c.args.idList.length ∧ ¬ c.nowTime - c.startTime > replyTimeout
    some (P, c.goto (if goesOn then .drain else .returned))
  | .nowTime => some (P, { c with nowTime := now, pc := .loopTest })
  | .sendTransfer => some (P, c.goto .statStatus)
  | .statStatus =>
    some ({ P with
      stat := { P.stat with status := 1 }
      owner := some i
      running := i :: P.running }, c.goto .statRecvNum)
  | .statRecvNum =>
    some ({ P with stat := { P.stat with recvNum := 0 } }, c.goto .statRandomSeq)
  | .statRandomSeq =>
    some ({ P with stat := { P.stat with randomSeq := req.randomSeq } }, c.goto .statType)
  | .statType => some ({ P with stat := { P.stat with type := req.type } }, c.goto .statIdNum)
  | .statIdNum =>
    some ({ P with stat := { P.stat with idNum := c.args.idList.length } }, c.goto .statIdList)
  | .statIdList =>
    some ({ P with stat := { P.stat with idList := some c.args.idList } }, c.goto .statStartTime)
  | .statStartTime =>
    some ({ P with stat := { P.stat with startTime := now } }, c.goto .returned)
  | .drain | .received _ | .returned => none

def written (P : Process ρ) (c : Call) : List DataInfoRequest :=
  match c.pc with
  | .sendRequest | .sendTransfer => [P.static c.args.fn]
  | _ => []

/-- `dds_take_instance`: the first sample of the instance, and the samples left. -/
def takeInstance (key : ℕ) (reader : List Reply) : Option (Reply × List Reply) :=
  (reader.find? (·.reply.randomSeq = key)).map fun r =>
    (r, reader.eraseP (·.reply.randomSeq = key))

/-- The next statement of the poll, but for what it does with a sample. -/
def pollStep (replyTimeout now : ℤ) (P : Process ρ) : Option (Process ρ) :=
  match P.poll with
  | .idle => some { P with poll := .test P.stat.randomSeq }
  | .test key => some { P with poll := if P.stat.status = 1 then .init key else .idle }
  | .init key => some { P with poll := .loop key P.stat.recvNum }
  | .loop key i => some { P with poll := if i < P.stat.idNum then .drain key i else .count }
  | .drain key i =>
    match takeInstance key P.reader with
    | none => some { P with poll := .loop key (i + 1) }
    | some (r, reader) => some { P with reader, poll := .received key i r }
  | .received .. => none
  | .count => some { P with poll := if P.stat.recvNum = P.stat.idNum then .done else .deadline }
  | .done => some { P with stat := { P.stat with status := 0 }, running := [], poll := .deadline }
  | .deadline =>
    some { P with poll := if now - P.stat.startTime > replyTimeout then .expire else .free }
  | .expire => some { P with stat := { P.stat with status := 0 }, running := [], poll := .free }
  | .free => some { P with poll := if P.stat.status = 0 then .clearIdList else .idle }
  | .clearIdList => some { P with stat := { P.stat with idList := none }, poll := .clearIdNum }
  | .clearIdNum => some { P with stat := { P.stat with idNum := 0 }, poll := .idle }

/-- The request of the call is drawn, and the call or its transfer has not ended. -/
def Outstanding (P : Process ρ) (i : ℕ) (c : Call) : Prop :=
  c.drawn ≠ none ∧ (c.pc ≠ .returned ∨ i ∈ P.running)

instance (P : Process ρ) (i : ℕ) (c : Call) : Decidable (Outstanding P i c) :=
  inferInstanceAs (Decidable (_ ≠ _ ∧ (_ ≠ _ ∨ _ ∈ _)))

def OutstandingIn (s : System ρ) (p i : ℕ) : Prop :=
  ∃ c ∈ s.calls[i]?, c.process = p ∧ Outstanding (s.process p) i c

instance (s : System ρ) (p i : ℕ) : Decidable (OutstandingIn s p i) :=
  inferInstanceAs (Decidable (∃ c ∈ s.calls[i]?, _ ∧ _))

def System.setProcess (s : System ρ) (p : ℕ) (P : Process ρ) : System ρ :=
  { s with process := Function.update s.process p P }

def System.setCall (s : System ρ) (i : ℕ) (c : Call) : System ρ :=
  { s with calls := s.calls.set i c }

/-- A reply is recorded for `taker` if it is its own by type and sequence, and thrown away if
not. -/
def judge (s : System ρ) (p : ℕ) (taker : Option ℕ) (isFor : Bool) (r : Reply) : System ρ :=
  if isFor then { s with recorded := s.recorded ++ [(taker, r.owner)] }
  else if taker ≠ some r.owner ∧ OutstandingIn s p r.owner then
    { s with lost := s.lost ++ [r.owner] }
  else s

def callStep (G : RandLib ρ) (replyTimeout now : ℤ) (i : ℕ) (c : Call) (s : System ρ) :
    Option (System ρ) :=
  let P := s.process c.process
  match c.pc with
  | .drain =>
    match takeInstance c.instanceKey P.reader with
    | none => some (s.setCall i (c.goto .nowTime))
    | some (r, reader) =>
      some ((s.setProcess c.process { P with reader }).setCall i (c.goto (.received r)))
  | .received r =>
    let isFor := ReplyCollection.isFor (P.static c.args.fn) r.reply
    let num := if isFor then c.num + 1 else c.num
    some ((judge s c.process (some i) isFor r).setCall i { c with num, pc := .drain })
  | _ => (opStep G replyTimeout now i P c).map fun (P', c') =>
    { (s.setProcess c.process P').setCall i c' with
      requests := s.requests ++ (written P c).map (i, ·) }

def pollProcess (replyTimeout now : ℤ) (p : ℕ) (s : System ρ) : Option (System ρ) :=
  let P := s.process p
  match P.poll with
  | .received key i r =>
    let isFor := TransferEffects.isFor P.stat r.reply
    let recvNum := if isFor then P.stat.recvNum + 1 else P.stat.recvNum
    some ((judge s p P.owner isFor r).setProcess p
      { P with stat := { P.stat with recvNum }, poll := .drain key i })
  | _ => (pollStep replyTimeout now P).map (s.setProcess p)

/-- `now` is the time that is read, if the statement reads it. An agent answers a request for its
device with the type and the sequence of the request. -/
inductive Event where
  | call (process : ℕ) (args : ServerCall)
  | op (i : ℕ) (now : ℤ)
  | poll (process : ℕ) (now : ℤ)
  | answer (k deviceID : ℕ) (msg : Text) (binary : List UInt8)
  | deliver (process j : ℕ)

def answerTo (req : ℕ × DataInfoRequest) (deviceID : ℕ) (msg : Text) (binary : List UInt8) :
    Option Reply :=
  if deviceID ∈ req.2.idList then
    some ⟨req.1, ⟨deviceID, req.2.type, req.2.randomSeq, msg, binary⟩⟩
  else none

def Process.arrive (P : Process ρ) (j : ℕ) : Option (Process ρ) :=
  P.inFlight[j]?.map fun r =>
    { P with inFlight := P.inFlight.eraseIdx j, reader := P.reader ++ [r] }

def step (G : RandLib ρ) (replyTimeout : ℤ) (s : System ρ) : Event → Option (System ρ)
  | .call process args => some { s with calls := s.calls ++ [begin process args] }
  | .op i now => s.calls[i]?.bind fun c => callStep G replyTimeout now i c s
  | .poll p now => pollProcess replyTimeout now p s
  | .answer k deviceID msg binary => do
    let req ← s.requests[k]?
    let r ← answerTo req deviceID msg binary
    some { s with process := fun p =>
      { s.process p with inFlight := (s.process p).inFlight ++ [r] } }
  | .deliver p j => ((s.process p).arrive j).map (s.setProcess p)

def ServerCall.request (args : ServerCall) (randomSeq : ℕ) : Option DataInfoRequest :=
  args.message.map fun message => ⟨args.idList, args.fn.type, randomSeq, message, args.binary⟩

def ofInfo : ReplyCollection.InfoCall → ServerCall
  | .getInfo idList keyList => .getInfo idList keyList
  | .setInfo devList => .setInfo devList
  | .setInfoWithSameValue idList valueList => .setInfoWithSameValue idList valueList

theorem ofInfo_request (call : ReplyCollection.InfoCall) (randomSeq : ℕ) :
    (ofInfo call).request randomSeq = call.request randomSeq := by
  cases call <;> rfl

def runOps (G : RandLib ρ) (replyTimeout now : ℤ) (i : ℕ) :
    ℕ → Process ρ → Call → Option (Process ρ × Call)
  | 0, P, c => some (P, c)
  | n + 1, P, c => (opStep G replyTimeout now i P c).bind fun r =>
    runOps G replyTimeout now i n r.1 r.2

theorem runOps_add (G : RandLib ρ) (replyTimeout now : ℤ) (i m n : ℕ) (P : Process ρ) (c : Call) :
    runOps G replyTimeout now i (m + n) P c = (runOps G replyTimeout now i m P c).bind fun r =>
      runOps G replyTimeout now i n r.1 r.2 := by
  induction m generalizing P c with
  | zero => simp [runOps]
  | succ m ih =>
    rw [Nat.succ_add, runOps, runOps, Option.bind_assoc]
    simp only [ih]

section Uninterrupted

variable (G : RandLib ρ) (replyTimeout now : ℤ) (i process : ℕ)

def filledIn (P : Process ρ) (args : ServerCall) (message : Text) : Process ρ × Call :=
  let (randomSeq, rand) := G.rand (G.srand now)
  ({ P.write args.fn ⟨args.idList, args.fn.type, randomSeq, message, args.binary⟩ with rand },
    { begin process args with
      message
      drawn := some randomSeq
      pc := if args.fn.isFile then .sendTransfer else .instanceKey })

theorem runOps_message {args : ServerCall} {P : Process ρ}
    (hidle : args.fn.isFile = true → P.stat.status = 0) {message : Text}
    (hmsg : args.message = some message) :
    runOps G replyTimeout now i (if args.fn.isFile then 2 else 1) P (begin process args) =
      some (P, { begin process args with message, pc := .idList }) := by
  by_cases hfile : args.fn.isFile = true
  · simp [runOps, opStep, begin, hfile, hidle hfile, hmsg, Call.goto]
  · simp [runOps, opStep, begin, hfile, hmsg]

theorem runOps_fill (args : ServerCall) (P : Process ρ) (message : Text) :
    runOps G replyTimeout now i 6 P { begin process args with message, pc := .idList } =
      some (filledIn G now process P args message) := by
  simp only [runOps, opStep, Option.bind_some, Call.goto, filledIn]
  by_cases hfile : args.fn.isFile = true <;> simp [Process.write, begin, hfile]

/-- An uninterrupted call writes its request, with what `rand` returns behind `srand`. -/
theorem runOps_request {args : ServerCall} {P : Process ρ}
    (hidle : args.fn.isFile = true → P.stat.status = 0) {req : DataInfoRequest}
    (hreq : args.request (G.rand (G.srand now)).1 = some req) :
    ∃ P' c', runOps G replyTimeout now i 8 P (begin process args) = some (P', c') ∧
      written P' c' = [req] ∧ P'.stat = P.stat := by
  obtain ⟨message, hmsg, rfl⟩ := Option.map_eq_some_iff.mp hreq
  have htext := runOps_message G replyTimeout now i process hidle hmsg
  have hfill := runOps_fill G replyTimeout now i process args P message
  by_cases hfile : args.fn.isFile = true
  · rw [if_pos hfile] at htext
    rw [runOps_add G replyTimeout now i 2 6, htext, Option.bind_some, hfill]
    exact ⟨_, _, rfl, by simp [written, hfile, begin], rfl⟩
  · rw [if_neg hfile] at htext
    rw [runOps_add G replyTimeout now i 1 7, htext, Option.bind_some,
      runOps_add G replyTimeout now i 6 1, hfill, Option.bind_some]
    simp [runOps, opStep, filledIn, hfile, written, begin]

/-- An uninterrupted file call leaves the transfer record that the model of one call at a time
has. -/
theorem runOps_transfer {args : ServerCall} (hfile : args.fn.isFile = true) {P : Process ρ}
    (hidle : P.stat.status = 0) {req : DataInfoRequest}
    (hreq : args.request (G.rand (G.srand now)).1 = some req)
    {s s' : FileTransfer.FileServer} (htrig : FileTransfer.triggerTransfer req now s = some s') :
    ∃ P' c', runOps G replyTimeout now i 16 P (begin process args) = some (P', c') ∧
      P'.stat = s'.gFileTransferStat ∧ c'.pc = .returned := by
  obtain ⟨message, hmsg, rfl⟩ := Option.map_eq_some_iff.mp hreq
  obtain ⟨registry, -, hs⟩ := Option.bind_eq_some_iff.mp htrig
  obtain rfl := Option.some.inj hs
  have htext := runOps_message G replyTimeout now i process (fun _ => hidle) hmsg
  rw [if_pos hfile] at htext
  rw [runOps_add G replyTimeout now i 2 14, htext, Option.bind_some,
    runOps_add G replyTimeout now i 6 8, runOps_fill, Option.bind_some]
  simp [runOps, opStep, filledIn, hfile, begin, Call.goto]

end Uninterrupted

end ConcurrentCalls
