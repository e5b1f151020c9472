import RmtLibrary.ConfigPrint
import RmtLibrary.Logger
import RmtLibrary.Network

/-! # The settings and the log of a process

The two functions `configure`, and the parts of the two `init` and the two `deinit` that use
`g_rmt_cfg`, `g_rmt_runtime_cfg` and the log. A server and an agent in one process share all of
these. `none` stands for a write outside of a block or the use of a closed stream. -/
namespace Sessions

open CString (Text Memory nul)
open Logger (rmtLog rmtError logInit logDeinit)
open Network
open RmtConfig

/-- What a call finds: the configuration file, if it can be opened, what the local arrays happen
to hold, the network, and whether the log file can be opened. -/
structure Env where
  file : Option Text
  buffers : Buffers
  observed : Observed
  logOpens : Bool

structure RmtAgentCfg where
  netInterface : Option Text
  deviceId : BitVec 64

structure State where
  globals : Globals
  runtime : Memory
  log : Logger.State

def initial (zenoh : Bool) : State :=
  ⟨⟨.notInit, List.replicate (sizeofRmtConfig zenoh) nul⟩, List.replicate 80 nul, Logger.initial⟩

/-- Whether `sscanf` fails on a line that it is called for. What the arrays hold plays no part. -/
def unmatched (b : Buffers) (line : Text) : Bool :=
  if line.head? = some '#' ∨ line.head? = some '\n' then false
  else (sscanfKeyValue line b).all (·.2 ≠ 2)

def syntaxErrors (b : Buffers) : ℕ → ℕ → Text → List ℕ
  | 0, _, _ => []
  | fuel + 1, lineNum, fp =>
    if fp = [] then []
    else
      let (line, fp) := fgets (lineLen - 1) fp
      let lineNum := lineNum + 1
      if unmatched b line then lineNum :: syntaxErrors b fuel lineNum fp
      else syntaxErrors b fuel lineNum fp

def syntaxError (lineNum : ℕ) : Text :=
  "Syntax error: line ".toList ++ CString.formatInt lineNum ++ ['\n']

def configErrors (e : Env) : List Text :=
  match e.file with
  | none => ["Unable to find config, such as rmt.conf.\n".toList]
  | some fp => (syntaxErrors e.buffers (fp.length + 1) 0 fp).map syntaxError

def configInit (zenoh : Bool) (e : Env) (s : State) : Option State :=
  if s.globals.gRmtCfgStatus ≠ .notInit then some s
  else do
    let globals ← rmtConfigInit zenoh e.file e.buffers s.globals
    let log ← (configErrors e).foldlM (fun log message => rmtError message log) s.log
    some { s with globals, log }

def setInterface (interface : Option Text) (cfg : Memory) : Option Memory :=
  match interface with
  | none => some cfg
  | some t => strcpyField .netInterface t cfg

def rmtServerConfigure (zenoh : Bool) (e : Env) (interface : Option Text) (domainId : BitVec 32)
    (s : State) : Option State := do
  let s ← configInit zenoh e s
  let cfg ← setInterface interface s.globals.gRmtCfg
  let cfg := storeNumber 4 .domainId domainId.toNat cfg
  some { s with globals := { s.globals with gRmtCfg := cfg } }

def rmtAgentConfigure (zenoh : Bool) (e : Env) (config : Option RmtAgentCfg) (s : State) :
    Option State := do
  let s ← configInit zenoh e s
  match config with
  | none => some s
  | some config =>
    let cfg := storeNumber 8 .deviceId config.deviceId.toNat s.globals.gRmtCfg
    let cfg ← setInterface config.netInterface cfg
    some { s with globals := { s.globals with gRmtCfg := cfg } }

/-- `log_init` and `rmt_config_print`, which reads nothing if the log is disabled. -/
def openLog (zenoh : Bool) (e : Env) (s : State) : Option State := do
  let logfile ← CString.cstr s.globals.gRmtCfg Field.logfile.offset
  let log ← logInit logfile e.logOpens s.log
  if log.gLogDisable then some { s with log }
  else
    let lines ← ConfigPrint.rmtConfigPrint zenoh s.globals.gRmtCfg
    let log ← lines.foldlM (fun log message => rmtLog message log) log
    some { s with log }

/-- The calls that `rmt_server_init` and `rmt_agent_init` begin with. -/
def init (zenoh : Bool) (e : Env) (s : State) : Option State := do
  let s ← configInit zenoh e s
  let (globals, runtime) ← rmtConfigRuntimeInit e.observed s.globals s.runtime
  openLog zenoh e { s with globals, runtime }

/-- `log_deinit` and `rmt_config_deinit`, which `rmt_server_deinit` and `rmt_agent_deinit` end
with. -/
def deinit (s : State) : Option State := do
  let logfile ← CString.cstr s.globals.gRmtCfg Field.logfile.offset
  let log ← logDeinit logfile s.log
  some { s with globals := { s.globals with gRmtCfgStatus := .notInit }, log }

/-- Every other call is known by the messages it logs. -/
inductive Call where
  | serverConfigure (e : Env) (interface : Option Text) (domainId : BitVec 32)
  | agentConfigure (e : Env) (config : Option RmtAgentCfg)
  | init (e : Env)
  | log (label message : Text)
  | deinit

def step (zenoh : Bool) (s : State) : Call → Option State
  | .serverConfigure e interface domainId => rmtServerConfigure zenoh e interface domainId s
  | .agentConfigure e config => rmtAgentConfigure zenoh e config s
  | .init e => init zenoh e s
  | .log label message => (Logger.logMessage label message s.log).map ({ s with log := · })
  | .deinit => deinit s

end Sessions
