import Mathlib.Data.Fintype.Basic
import Mathlib.Logic.Function.Basic

/-! # The life of the server

`rmt_server_init`, `rmt_server_deinit`, `rmt_reinit_server`, the loop of `recv_thread_func` and
the frame that every API call has in common. Each read or write of a field of `g_svr_info` is one
step of the main thread, of the receive thread or of one of `n` API threads. -/
namespace RmtServer

inductive ServerStatus where
  | stop
  | running
  deriving DecidableEq, Repr

/-- `g_svr_info`, whether a file transfer runs, and what the code does not keep: the next name of
a transport and the names of those that are freed. A transport is `none` for `NULL`. -/
structure ServerInfo where
  transport : Option ℕ
  recvThreadStatus : Bool
  status : ServerStatus
  usingApi : BitVec 64
  fileTransferring : Bool
  nextTransport : ℕ
  freed : List ℕ
  deriving DecidableEq, Repr

inductive MainPc where
  | down
  | testTransport
  | writeThreadStatus
  | createThread
  | clearUsing
  | setRunning
  | up
  | join
  | deinitTransport
  deriving DecidableEq, Repr

/-- Where the receive thread stands. `found` says that the selected interface has a name. -/
inductive RecvPc where
  | absent
  | loopTest
  | testTransport
  | update
  | transfer
  | testInterface
  | testChanged (changed found : Bool)
  | testRunning (found : Bool)
  | writeStop (found : Bool)
  | testUsing (found : Bool)
  | testTransfer (found : Bool)
  | testFree
  | deinit
  | clear
  | configInit
  | create
  | testCreated
  | writeRunning
  deriving DecidableEq, Repr

/-- Where an API thread stands. `held` is the transport it has read, if it has read one. -/
inductive ApiPc where
  | idle
  | checked
  | incRead (value : BitVec 64)
  | counted (held : Option (Option ℕ))
  | decRead (value : BitVec 64) (held : Option (Option ℕ))
  deriving DecidableEq, Repr

/-- What `dds_transport_server_init` comes to. Where a later creation fails it frees the
transport and still returns it. -/
inductive InitOutcome where
  | created
  | noMemory
  | failed
  deriving DecidableEq, Repr

def ddsTransportServerInit (info : ServerInfo) : InitOutcome → ServerInfo
  | .created =>
    { info with
      transport := some info.nextTransport
      nextTransport := info.nextTransport + 1 }
  | .noMemory => { info with transport := none }
  | .failed =>
    { info with
      transport := some info.nextTransport
      nextTransport := info.nextTransport + 1
      freed := info.nextTransport :: info.freed }

def ddsTransportDeinit (info : ServerInfo) : Option ServerInfo :=
  info.transport.map fun transport => { info with freed := transport :: info.freed }

structure State (n : ℕ) where
  info : ServerInfo
  main : MainPc
  recv : RecvPc
  api : Fin n → ApiPc

def initial (n : ℕ) : State n :=
  ⟨⟨none, false, .stop, 0, false, 0, []⟩, .down, .absent, fun _ => .idle⟩

def mainStep (outcome : InitOutcome) (s : State n) : Option (State n) :=
  match s.main with
  | .down =>
    let info := { s.info with fileTransferring := false }
    some { s with info := ddsTransportServerInit info outcome, main := .testTransport }
  | .testTransport =>
    some { s with main := if s.info.transport = none then .down else .writeThreadStatus }
  | .writeThreadStatus =>
    some { s with info := { s.info with recvThreadStatus := true }, main := .createThread }
  | .createThread => some { s with recv := .loopTest, main := .clearUsing }
  | .clearUsing => some { s with info := { s.info with usingApi := 0 }, main := .setRunning }
  | .setRunning => some { s with info := { s.info with status := .running }, main := .up }
  | .up => some { s with info := { s.info with recvThreadStatus := false }, main := .join }
  | .join => if s.recv = .absent then some { s with main := .deinitTransport } else none
  | .deinitTransport =>
    (ddsTransportDeinit s.info).map fun info => { s with info, main := .down }

/-- What the receive thread meets: whether the poll ends a file transfer, whether interface or IP
changed, whether there is an interface, and whether the re-creation works. -/
structure RecvEnv where
  transferEnds : Bool
  changed : Bool
  found : Bool
  configOk : Bool
  outcome : InitOutcome

def recvStep (autoDetect : Bool) (env : RecvEnv) (s : State n) : Option (State n) :=
  match s.recv with
  | .absent => none
  | .loopTest =>
    some { s with recv := if s.info.recvThreadStatus then .testTransport else .absent }
  | .testTransport =>
    some { s with recv := if s.info.transport = none then .testInterface else .update }
  | .update => some { s with recv := .transfer }
  | .transfer =>
    let fileTransferring := s.info.fileTransferring && !env.transferEnds
    some { s with info := { s.info with fileTransferring }, recv := .testInterface }
  | .testInterface =>
    some { s with recv := if autoDetect ∨ s.info.status = .stop then
      .testChanged env.changed env.found else .loopTest }
  | .testChanged changed found =>
    some { s with recv := if changed ∨ s.info.status = .stop then .testRunning found
      else .loopTest }
  | .testRunning found =>
    some { s with recv := if s.info.status = .running then .writeStop found
      else .testUsing found }
  | .writeStop found =>
    some { s with info := { s.info with status := .stop }, recv := .testUsing found }
  | .testUsing found =>
    some { s with recv := if s.info.usingApi = 0 then .testTransfer found else .loopTest }
  | .testTransfer found =>
    some { s with recv := if s.info.fileTransferring ∨ ¬ found then .loopTest else .testFree }
  | .testFree =>
    some { s with recv := if s.info.transport = none then .configInit else .deinit }
  | .deinit => (ddsTransportDeinit s.info).map fun info => { s with info, recv := .clear }
  | .clear => some { s with info := { s.info with transport := none }, recv := .configInit }
  | .configInit => some { s with recv := if env.configOk then .create else .loopTest }
  | .create =>
    some { s with info := ddsTransportServerInit s.info env.outcome, recv := .testCreated }
  | .testCreated =>
    if s.info.transport = none then some { s with recv := .loopTest }
    else some { s with info := { s.info with fileTransferring := false }, recv := .writeRunning }
  | .writeRunning =>
    some { s with info := { s.info with status := .running }, recv := .loopTest }

/-- The steps of an API call. `use` reads the transport; the file calls may start a transfer. -/
inductive ApiAction where
  | check
  | readInc
  | writeInc
  | use (starts : Bool)
  | readDec
  | writeDec
  deriving DecidableEq, Repr

/-- The call that stands at `pc` takes a step. API calls are made from the return of
`rmt_server_init` until `rmt_server_deinit` is called. -/
def apiStep (main : MainPc) (info : ServerInfo) : ApiPc → ApiAction → Option (ServerInfo × ApiPc)
  | .idle, .check =>
    if main = .up then some (info, if info.status = .running then .checked else .idle) else none
  | .checked, .readInc => some (info, .incRead info.usingApi)
  | .incRead value, .writeInc => some ({ info with usingApi := value + 1 }, .counted none)
  | .counted _, .use starts =>
    let fileTransferring := info.fileTransferring || starts
    some ({ info with fileTransferring }, .counted (some info.transport))
  | .counted held, .readDec => some (info, .decRead info.usingApi held)
  | .decRead value _, .writeDec => some ({ info with usingApi := value - 1 }, .idle)
  | _, _ => none

inductive Event (n : ℕ) where
  | main (outcome : InitOutcome)
  | recv (env : RecvEnv)
  | api (i : Fin n) (action : ApiAction)
  | reinitServer

def step (autoDetect : Bool) (s : State n) : Event n → Option (State n)
  | .main outcome => mainStep outcome s
  | .recv env => recvStep autoDetect env s
  | .api i action => (apiStep s.main s.info (s.api i) action).map fun r =>
    { s with info := r.1, api := Function.update s.api i r.2 }
  | .reinitServer => some { s with info := { s.info with status := .stop } }

end RmtServer
