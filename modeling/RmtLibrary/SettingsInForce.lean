import RmtLibrary.SessionRefinement

/-! # The settings in force

A setting has the value that the last call of its session gives, else what the file means that
the first call of the session finds. Each log file is closed once, unless another start replaces
it before, and no message goes to a closed one. -/
namespace SettingsInForce

open CString (Text)
open GuardedExecution
open Logger (Journal Stream)
open ConfigMeaning
open Network
open RmtConfig
open SessionMeaning
open SessionRefinement
open Sessions

variable {zenoh : Bool} {a : Spec}

def envOf : Call → Option Env
  | .serverConfigure e _ _ => some e
  | .agentConfigure e _ => some e
  | .init e => some e
  | .log _ _ => none
  | .deinit => none

def sets (f : Field) : Call → Option Value
  | .serverConfigure _ interface domainId =>
    if f = .domainId then some (.number domainId.toInt)
    else if f = .netInterface then interface.map .text
    else none
  | .agentConfigure _ config => config.bind fun config =>
    if f = .deviceId then some (.number config.deviceId.toNat)
    else if f = .netInterface then config.netInterface.map .text
    else none
  | .init _ => none
  | .log _ _ => none
  | .deinit => none

/-- The last value that a call of the session gives, else what the file means. -/
def inForce (zenoh : Bool) (file : Option Text) (session : List Call) (f : Field) : Value :=
  (session.reverse.findSome? (sets f)).getD (fileSettings zenoh file f)

/-- Only a device ID of zero is replaced, by one that a start of the session generates. -/
def InForce (zenoh : Bool) (file : Option Text) (session : List Call) (c : Config) : Prop :=
  (∀ f, f ≠ .deviceId → c f = inForce zenoh file session f) ∧
  (c .deviceId = inForce zenoh file session .deviceId ∨
    inForce zenoh file session .deviceId = .number 0 ∧
      ∃ e, .init e ∈ session ∧ c .deviceId = .number (netGenerateId e.observed))

theorem inForce_snoc (file : Option Text) (session : List Call) (call : Call) (f : Field) :
    inForce zenoh file (session ++ [call]) f =
      (sets f call).getD (inForce zenoh file session f) := by
  rw [inForce, List.reverse_append, List.reverse_singleton, List.singleton_append,
    List.findSome?_cons, inForce]
  cases sets f call <;> rfl

theorem InForce.snoc {file : Option Text} {session : List Call} {c : Config}
    (h : InForce zenoh file session c) {call : Call} (hsets : ∀ f, sets f call = none) :
    InForce zenoh file (session ++ [call]) c := by
  obtain ⟨hothers, hid⟩ := h
  refine ⟨fun f hf => ?_, ?_⟩
  · rw [inForce_snoc, hsets]
    exact hothers f hf
  · rw [inForce_snoc, hsets]
    exact hid.imp id fun ⟨hzero, e, he, heq⟩ => ⟨hzero, e, List.mem_append_left _ he, heq⟩

theorem InForce.server {file : Option Text} {session : List Call} {c : Config}
    (h : InForce zenoh file session c) (e : Env) (interface : Option Text) (domainId : BitVec 32) :
    InForce zenoh file (session ++ [.serverConfigure e interface domainId])
      (serverSettings interface domainId c) := by
  obtain ⟨hothers, hid⟩ := h
  refine ⟨fun f hf => ?_, ?_⟩
  · rw [inForce_snoc, serverSettings, sets]
    by_cases hdomain : f = .domainId
    · rw [if_pos hdomain, hdomain, Function.update_self]
      rfl
    · rw [if_neg hdomain, Function.update_of_ne hdomain]
      cases interface with
      | none => simpa [setText] using hothers f hf
      | some t =>
        by_cases hnet : f = .netInterface
        · rw [if_pos hnet, hnet, setText, Function.update_self]
          rfl
        · rw [if_neg hnet, setText, Function.update_of_ne hnet]
          exact hothers f hf
  · have hset : serverSettings interface domainId c .deviceId = c .deviceId := by
      rw [serverSettings, Function.update_of_ne (by simp)]
      cases interface with
      | none => rfl
      | some t => rw [setText, Function.update_of_ne (by simp)]
    have hnone : sets .deviceId (.serverConfigure e interface domainId) = none := by simp [sets]
    rw [inForce_snoc, hnone, hset]
    exact hid.imp id fun ⟨hzero, e, he, heq⟩ => ⟨hzero, e, List.mem_append_left _ he, heq⟩

theorem InForce.agent {file : Option Text} {session : List Call} {c : Config}
    (h : InForce zenoh file session c) (e : Env) (config : Option RmtAgentCfg) :
    InForce zenoh file (session ++ [.agentConfigure e config]) (agentSettings config c) := by
  cases config with
  | none => exact h.snoc fun f => rfl
  | some config =>
    have hset : ∀ f, agentSettings (some config) c f =
        (sets f (.agentConfigure e (some config))).getD (c f) := by
      intro f
      rw [agentSettings, sets, Option.bind_some]
      by_cases hid : f = .deviceId
      · rw [if_pos hid, hid]
        cases config.netInterface with
        | none => simp [setText]
        | some t => simp [setText]
      · rw [if_neg hid]
        cases config.netInterface with
        | none => simp [setText, Function.update_of_ne hid]
        | some t =>
          by_cases hnet : f = .netInterface
          · simp [setText, hnet]
          · simp [setText, hnet, hid]
    refine ⟨fun f hf => ?_, Or.inl ?_⟩
    · rw [inForce_snoc, hset, h.1 f hf]
    · rw [inForce_snoc, hset]
      rfl

theorem InForce.start {file : Option Text} {session : List Call} {c : Config}
    (h : InForce zenoh file session c) (e : Env) :
    InForce zenoh file (session ++ [.init e]) (if c .deviceId = .number 0 then
      Function.update c .deviceId (.number (netGenerateId e.observed)) else c) := by
  split
  · next hzero =>
    obtain ⟨hothers, hid⟩ := h
    refine ⟨fun f hf => ?_, Or.inr ⟨?_, e, by simp, by rw [Function.update_self]⟩⟩
    · rw [Function.update_of_ne hf, inForce_snoc]
      exact hothers f hf
    · rw [inForce_snoc]
      rcases hid with hid | ⟨hid, -⟩
      · exact hid.symm.trans hzero
      · exact hid
  · exact h.snoc fun f => rfl

/-- What the calls of a session make of settings that were not read before. -/
def Follows (zenoh : Bool) (session : List Call) (a : Spec) : Prop :=
  match session.findSome? envOf with
  | none => a.settings = none ∧ ∀ call ∈ session, ∀ f, sets f call = none
  | some e => ∃ c, a.settings = some c ∧ InForce zenoh e.file session c

theorem follows_begin {session : List Call} (h : Follows zenoh session a) (e : Env) :
    ∃ c e', (a.begin zenoh e).settings = some c ∧ InForce zenoh e'.file session c ∧
      ((session.findSome? envOf).or (some e)) = some e' := by
  rw [Follows] at h
  rw [Spec.begin]
  cases hfind : session.findSome? envOf with
  | none =>
    rw [hfind] at h
    obtain ⟨hset, hnone⟩ := h
    have hforce : ∀ f, inForce zenoh e.file session f = fileSettings zenoh e.file f := by
      intro f
      have hfirst : session.reverse.findSome? (sets f) = none :=
        List.findSome?_eq_none_iff.mpr fun call hc => hnone call (List.mem_reverse.mp hc) f
      rw [inForce, hfirst, Option.getD_none]
    rw [hset]
    exact ⟨_, e, rfl, ⟨fun f _ => (hforce f).symm, Or.inl (hforce _).symm⟩, rfl⟩
  | some e' =>
    rw [hfind] at h
    obtain ⟨c, hset, hc⟩ := h
    rw [hset]
    exact ⟨c, e', hset, hc, rfl⟩

theorem follows_step {session : List Call} (h : Follows zenoh session a) {call : Call}
    (hcall : call ≠ .deinit) : Follows zenoh (session ++ [call]) (a.next zenoh call) := by
  have hreads : ∀ {e : Env} {a' : Spec}, envOf call = some e →
      (∀ (c : Config) (e' : Env), (a.begin zenoh e).settings = some c →
        InForce zenoh e'.file session c →
          ∃ c', a'.settings = some c' ∧ InForce zenoh e'.file (session ++ [call]) c') →
      Follows zenoh (session ++ [call]) a' := by
    intro e a' henv hnext
    obtain ⟨c, e', hset, hc, hfirst⟩ := follows_begin h e
    have hfind : (session ++ [call]).findSome? envOf = some e' := by
      rw [List.findSome?_append, List.findSome?_singleton, henv, hfirst]
    rw [Follows, hfind]
    exact hnext c e' hset hc
  cases call with
  | serverConfigure e interface domainId =>
    refine hreads rfl fun c e' hset hc => ⟨_, ?_, hc.server e interface domainId⟩
    rw [Spec.next, hset, Option.map_some]
  | agentConfigure e config =>
    refine hreads rfl fun c e' hset hc => ⟨_, ?_, hc.agent e config⟩
    rw [Spec.next, hset, Option.map_some]
  | init e =>
    refine hreads rfl fun c e' hset hc => ?_
    have hopen : ∀ (a' : Spec) (c' : Config), (a'.openLog zenoh e c').settings = a'.settings := by
      intro a' c'
      rw [Spec.openLog]
      split <;> rfl
    have hstart : ((a.begin zenoh e).start e.observed c).settings = some c ∨
        ((a.begin zenoh e).start e.observed c).settings = some (if c .deviceId = .number 0 then
          Function.update c .deviceId (.number (netGenerateId e.observed)) else c) := by
      rw [Spec.start]
      split
      · exact Or.inl hset
      · exact Or.inr rfl
    have hnext : (a.next zenoh (.init e)).settings =
        ((a.begin zenoh e).start e.observed c).settings := by
      rw [Spec.next]
      simp only [hset, Option.elim_some]
      rcases hstart with heq | heq
      · rw [heq, Option.elim_some, hopen, heq]
      · rw [heq, Option.elim_some, hopen, heq]
    rcases hstart with heq | heq
    · exact ⟨c, hnext.trans heq, hc.snoc fun f => rfl⟩
    · exact ⟨_, hnext.trans heq, hc.start e⟩
  | log label message =>
    rw [Follows] at h ⊢
    rw [List.findSome?_append, List.findSome?_singleton, envOf, Option.or_none]
    cases hfind : session.findSome? envOf with
    | none =>
      rw [hfind] at h
      refine ⟨h.1, ?_⟩
      intro call hmem f
      rcases List.mem_append.mp hmem with hmem | hmem
      · exact h.2 call hmem f
      · obtain rfl := List.mem_singleton.mp hmem
        rfl
    | some e =>
      rw [hfind] at h
      obtain ⟨c, hset, hc⟩ := h
      exact ⟨c, hset, hc.snoc fun f => rfl⟩
  | deinit => exact absurd rfl hcall

theorem follows_run (zenoh : Bool) {session : List Call} (hsession : .deinit ∉ session)
    (hidle : a.settings = none) :
    Follows zenoh session (session.foldl (Spec.next zenoh) a) := by
  induction session using List.reverseRecOn with
  | nil => exact ⟨hidle, by simp⟩
  | append_singleton session call ih =>
    rw [List.foldl_append, List.foldl_cons, List.foldl_nil]
    refine follows_step (ih fun hm => hsession (List.mem_append_left _ hm)) ?_
    rintro rfl
    exact hsession (by simp)

/-- Nothing of the calls before a `deinit` is in force behind it. The file that the first call of
the session finds is overridden by what later calls of the session set, the last of them first. -/
theorem settings_in_force (zenoh : Bool) {before session : List Call}
    (hcalls : ∀ call ∈ before ++ session, CleanCall zenoh call)
    (hbefore : ∀ call ∈ before.getLast?, call = .deinit) (hsession : .deinit ∉ session) :
    ∃ s, runEvents (step zenoh) (initial zenoh) (before ++ session) = some s ∧
      ∀ e, session.findSome? envOf = some e → s.globals.gRmtCfgStatus = .init ∧
        ∃ c, Reads zenoh s.globals.gRmtCfg c ∧ InForce zenoh e.file session c := by
  obtain ⟨s, hrun, h⟩ := run_refines hcalls
  refine ⟨s, hrun, ?_⟩
  intro e he
  rw [List.foldl_append] at h
  have hidle : (before.foldl (Spec.next zenoh) Spec.initial).settings = none := by
    rcases List.eq_nil_or_concat' before with rfl | ⟨calls, last, rfl⟩
    · rfl
    · obtain rfl := hbefore last (by simp)
      rw [List.foldl_append]
      rfl
  have hfollows := follows_run zenoh hsession hidle
  rw [Follows, he] at hfollows
  obtain ⟨c, hset, hc⟩ := hfollows
  refine ⟨?_, c, h.reads c hset, hc⟩
  cases hstatus : s.globals.gRmtCfgStatus with
  | init => rfl
  | notInit =>
    have hnone := h.status.mp hstatus
    rw [hset] at hnone
    cases hnone

def logging : Env :=
  ⟨some "logfile: rmt.log\n".toList, ConfigLines.arrays, ⟨none, [], Vector.replicate 6 0⟩, true⟩

theorem clean_logging : Clean false logging := by
  refine ⟨ConfigLines.sized_arrays, ?_, by simp [logging]⟩
  intro fp hfp line hline
  obtain rfl := Option.some.inj hfp
  have hlines : ConfigLines.physicalLines "logfile: rmt.log\n".toList =
      ["logfile: rmt.log\n".toList] := by decide
  rw [hlines] at hline
  obtain rfl := List.mem_singleton.mp hline
  have hset : setting false "logfile: rmt.log\n".toList =
      some (⟨"logfile".toList, .string, .logfile⟩, "rmt.log".toList) := by decide
  refine ⟨⟨by decide, by decide, by decide, by decide, ?_⟩, fun _ _ => by decide⟩
  rw [hset]
  rintro pair hpair
  obtain rfl := Option.mem_some_iff.mp hpair
  exact (by decide : "rmt.log".toList.length < 40)

/-- The domain of the first session is forgotten in the second, and its log file is read again. -/
theorem settings_in_force_restart : ∃ s c,
    runEvents (step false) (initial false) ([.serverConfigure logging none 12, .init logging,
      .deinit] ++ [.agentConfigure logging none, .init logging]) = some s ∧
    Reads false s.globals.gRmtCfg c ∧ c .domainId = .number 0 ∧
    c .logfile = .text "rmt.log".toList := by
  have hclean : ∀ call ∈ ([.serverConfigure logging none 12, .init logging, .deinit] ++
      [.agentConfigure logging none, .init logging] : List Call), CleanCall false call := by
    simp [CleanCall, clean_logging, FitsField]
  obtain ⟨s, hrun, hforce⟩ := settings_in_force false hclean (by simp) (by simp)
  obtain ⟨-, c, hreads, hothers, -⟩ := hforce logging rfl
  refine ⟨s, c, hrun, hreads, ?_, ?_⟩
  · rw [hothers _ (by simp)]
    decide
  · rw [hothers _ (by simp)]
    decide

/-- Each start is followed by an end before the next start. The flag tells of one that is not. -/
def Bracketed : Bool → List Call → Prop
  | _, [] => True
  | started, .init _ :: calls => started = false ∧ Bracketed true calls
  | _, .deinit :: calls => Bracketed false calls
  | started, .serverConfigure _ _ _ :: calls => Bracketed started calls
  | started, .agentConfigure _ _ :: calls => Bracketed started calls
  | started, .log _ _ :: calls => Bracketed started calls

def WritesTo (logfile : Text) (opens : Bool) (sink : Option Stream) (paths : List Text) : Prop :=
  if logfile = "none".toList then sink = none
  else if logfile = "stderr".toList ∨ opens = false then sink = some .stderr
  else ∃ n, sink = some (.opened n) ∧ paths[n]? = some logfile

def Between (call : Call) : Prop := call ≠ .deinit ∧ ∀ e, call ≠ .init e

theorem sayAll_frame (label : Text) (messages : List Text) (j : Journal) :
    (sayAll label messages j).sink = j.sink ∧ (sayAll label messages j).paths = j.paths ∧
      (sayAll label messages j).lost = j.lost := by
  induction messages generalizing j with
  | nil => exact ⟨rfl, rfl, rfl⟩
  | cons message messages ih => exact ih (j.say label message)

theorem enter_writesTo (logfile : Text) (opens : Bool) (j : Journal) :
    WritesTo logfile opens (j.enter logfile opens).sink (j.enter logfile opens).paths := by
  rw [WritesTo, Journal.enter]
  by_cases hnone : logfile = "none".toList
  · rw [if_pos hnone, if_pos hnone]
  · rw [if_neg hnone, if_neg hnone]
    by_cases herr : logfile = "stderr".toList
    · rw [if_pos (Or.inl herr), if_pos herr]
    · rw [if_neg herr]
      cases opens with
      | true =>
        rw [if_neg (not_or.mpr ⟨herr, by simp⟩)]
        exact ⟨j.paths.length, rfl, by simp⟩
      | false =>
        rw [if_pos (Or.inr rfl)]
        rfl

theorem enter_lost (logfile : Text) (opens : Bool) {j : Journal} (hsink : j.sink = some .stderr) :
    (j.enter logfile opens).lost = j.lost := by
  have hleave : j.leave = j := by rw [Journal.leave, hsink]
  rw [Journal.enter, hleave]
  split
  · rfl
  · split
    · rfl
    · split <;> rfl

theorem begin_frame (zenoh : Bool) (a : Spec) (e : Env) :
    (a.begin zenoh e).journal.sink = a.journal.sink ∧
    (a.begin zenoh e).journal.paths = a.journal.paths ∧
    (a.begin zenoh e).journal.lost = a.journal.lost ∧
    ∀ c, a.settings = some c → a.begin zenoh e = a := by
  rw [Spec.begin]
  cases hset : a.settings with
  | some c => exact ⟨rfl, rfl, rfl, fun _ _ => rfl⟩
  | none =>
    obtain ⟨hsink, hpaths, hlost⟩ := sayAll_frame "RMT_ERROR:".toList (reports e.file) a.journal
    exact ⟨hsink, hpaths, hlost, by simp⟩

theorem init_opens (zenoh : Bool) (a : Spec) (e : Env) : ∃ c,
    (a.next zenoh (.init e)).settings = some c ∧
    (∀ t, c .logfile = .text t → WritesTo t e.logOpens (a.next zenoh (.init e)).journal.sink
      (a.next zenoh (.init e)).journal.paths) ∧
    (a.journal.sink = some .stderr → (a.next zenoh (.init e)).journal.lost = a.journal.lost) := by
  obtain ⟨hsink, -, hlost, -⟩ := begin_frame zenoh a e
  have hbegin : ∃ c, (a.begin zenoh e).settings = some c := by
    rw [Spec.begin]
    split
    · next c hset => exact ⟨c, hset⟩
    · exact ⟨_, rfl⟩
  obtain ⟨c, hset⟩ := hbegin
  have hstart : ((a.begin zenoh e).start e.observed c).journal = (a.begin zenoh e).journal ∧
      ∃ c', ((a.begin zenoh e).start e.observed c).settings = some c' := by
    rw [Spec.start]
    split
    · exact ⟨rfl, c, hset⟩
    · exact ⟨rfl, _, rfl⟩
  obtain ⟨hjournal, c', hset'⟩ := hstart
  rw [Spec.next]
  simp only [hset, Option.elim_some, hset']
  refine ⟨c', ?_, ?_, ?_⟩
  · rw [Spec.openLog]
    split
    · exact hset'
    · exact hset'
  · intro t ht
    rw [Spec.openLog, ht]
    obtain ⟨hsink', hpaths', -⟩ := sayAll_frame "RMT_LOG:".toList
      ((gConfigMapping zenoh).map fun mapping =>
        ConfigPrint.printLine mapping (ConfigPrint.shown (c' mapping.pointer)))
      (((a.begin zenoh e).start e.observed c).journal.enter t e.logOpens)
    dsimp only
    rw [hsink', hpaths']
    exact enter_writesTo t e.logOpens _
  · intro hstderr
    rw [Spec.openLog]
    split
    · rw [hjournal, hlost]
    · next t ht =>
      rw [(sayAll_frame _ _ _).2.2, hjournal, enter_lost t e.logOpens (hsink.trans hstderr), hlost]

theorem between_keeps (zenoh : Bool) {c : Config} {t : Text} {opens : Bool}
    (hset : a.settings = some c) (ht : c .logfile = .text t)
    (hw : WritesTo t opens a.journal.sink a.journal.paths)
    {call : Call} (hcall : Between call) : ∃ c', (a.next zenoh call).settings = some c' ∧
      c' .logfile = .text t ∧
      WritesTo t opens (a.next zenoh call).journal.sink (a.next zenoh call).journal.paths := by
  have htext : ∀ (interface : Option Text) (c : Config), c .logfile = .text t →
      setText .netInterface interface c .logfile = .text t := by
    intro interface c hc
    cases interface with
    | none => exact hc
    | some u => rw [setText, Function.update_of_ne (by simp), hc]
  cases call with
  | serverConfigure e interface domainId =>
    rw [Spec.next, (begin_frame zenoh a e).2.2.2 c hset, hset]
    refine ⟨_, rfl, ?_, hw⟩
    rw [serverSettings, Function.update_of_ne (by simp)]
    exact htext interface c ht
  | agentConfigure e config =>
    rw [Spec.next, (begin_frame zenoh a e).2.2.2 c hset, hset]
    refine ⟨_, rfl, ?_, hw⟩
    cases config with
    | none => exact ht
    | some config =>
      refine htext config.netInterface _ ?_
      rw [Function.update_of_ne (by simp), ht]
  | init e => exact absurd rfl (hcall.2 e)
  | log label message => exact ⟨c, hset, ht, hw⟩
  | deinit => exact absurd rfl hcall.1

theorem between_run {c : Config} {t : Text} {opens : Bool} (hset : a.settings = some c)
    (ht : c .logfile = .text t) (hw : WritesTo t opens a.journal.sink a.journal.paths)
    {calls : List Call} (hcalls : ∀ call ∈ calls, Between call) :
    ∃ c', (calls.foldl (Spec.next zenoh) a).settings = some c' ∧ c' .logfile = .text t ∧
      WritesTo t opens (calls.foldl (Spec.next zenoh) a).journal.sink
        (calls.foldl (Spec.next zenoh) a).journal.paths := by
  induction calls generalizing a c with
  | nil => exact ⟨c, hset, ht, hw⟩
  | cons call calls ih =>
    obtain ⟨c', hset', ht', hw'⟩ := between_keeps zenoh hset ht hw
      (hcalls call List.mem_cons_self)
    exact ih hset' ht' hw' fun call' hm => hcalls call' (List.mem_cons_of_mem _ hm)

theorem bracketed_lost {calls : List Call} {started : Bool} (h : Bracketed started calls)
    (hlost : a.journal.lost = []) (hidle : started = false → a.journal.sink = some .stderr) :
    (calls.foldl (Spec.next zenoh) a).journal.lost = [] := by
  induction calls generalizing a started with
  | nil => exact hlost
  | cons call calls ih =>
    rw [List.foldl_cons]
    cases call with
    | serverConfigure e interface domainId =>
      obtain ⟨hsink, -, hsame, -⟩ := begin_frame zenoh a e
      exact ih h (hsame.trans hlost) fun hs => hsink.trans (hidle hs)
    | agentConfigure e config =>
      obtain ⟨hsink, -, hsame, -⟩ := begin_frame zenoh a e
      exact ih h (hsame.trans hlost) fun hs => hsink.trans (hidle hs)
    | init e =>
      obtain ⟨hstarted, hrest⟩ := h
      obtain ⟨c, -, -, hkept⟩ := init_opens zenoh a e
      exact ih hrest ((hkept (hidle hstarted)).trans hlost) (by simp)
    | log label message => exact ih h hlost hidle
    | deinit => exact ih h hlost fun _ => rfl

/-- The files that a start replaced while they were open. -/
def replaced (zenoh : Bool) (calls : List Call) : List ℕ :=
  (calls.foldl (Spec.next zenoh) Spec.initial).journal.lost

/-- No message goes to a closed file, and no file is closed twice. The open ones are the one that
messages go to and those that a start replaced, of which there are none if each start is followed
by an end. -/
theorem log_follows_sessions (zenoh : Bool) {calls : List Call}
    (hcalls : ∀ call ∈ calls, CleanCall zenoh call) :
    ∃ s, runEvents (step zenoh) (initial zenoh) calls = some s ∧ s.log.closed.Nodup ∧
      (∀ n, n ∈ s.log.closed ↔ n < s.log.paths.length ∧ n ∉ replaced zenoh calls ∧
        s.log.sink ≠ some (.opened n)) ∧
      (Bracketed false calls → replaced zenoh calls = []) ∧
      ∀ before e between, calls = before ++ .init e :: between →
        (∀ call ∈ between, Between call) →
        ∃ logfile, CString.cstr s.globals.gRmtCfg Field.logfile.offset = some logfile ∧
          WritesTo logfile e.logOpens s.log.sink s.log.paths := by
  obtain ⟨s, hrun, h⟩ := run_refines hcalls
  obtain ⟨logfile, hread, hmatch⟩ := h.logfile
  refine ⟨s, hrun, h.shows.accounts.nodup, ?_, ?_, ?_⟩
  · intro n
    rw [h.shows.accounts.closed n, ne_eq, Logger.sink_opened hmatch]
    rfl
  · intro hbracketed
    exact bracketed_lost hbracketed rfl fun _ => rfl
  · rintro before e between rfl hbetween
    obtain ⟨c, hset, hopens, -⟩ := init_opens zenoh (before.foldl (Spec.next zenoh) Spec.initial) e
    have hprefix : ∀ call ∈ before ++ [.init e], CleanCall zenoh call := by
      intro call hcall
      refine hcalls call ?_
      rw [← List.singleton_append, ← List.append_assoc]
      exact List.mem_append_left _ hcall
    obtain ⟨mid, -, hmid⟩ := run_refines hprefix
    rw [List.foldl_append, List.foldl_cons, List.foldl_nil] at hmid
    obtain ⟨t, ht, -⟩ := logfile_read (hmid.reads c hset)
    obtain ⟨c', hset', ht', hw⟩ := between_run hset ht (hopens t ht) hbetween
    rw [List.foldl_append, List.foldl_cons] at h
    obtain ⟨t', hname, hcstr⟩ := logfile_read (h.reads c' hset')
    obtain rfl := Value.text.inj (ht'.symm.trans hname)
    refine ⟨t, hcstr, ?_⟩
    rw [h.shows.sink, h.shows.paths]
    exact hw

theorem log_follows_sessions_restart : ∃ s, runEvents (step false) (initial false)
    [.init logging, .deinit, .init logging] = some s ∧
    (0 ∈ s.log.closed ↔ 0 < s.log.paths.length ∧ s.log.sink ≠ some (.opened 0)) ∧
    ∃ logfile, CString.cstr s.globals.gRmtCfg Field.logfile.offset = some logfile ∧
      WritesTo logfile true s.log.sink s.log.paths := by
  have hclean : ∀ call ∈ ([.init logging, .deinit, .init logging] : List Call),
      CleanCall false call := by
    simp [CleanCall, clean_logging]
  obtain ⟨s, hrun, -, hclosed, hbracketed, hwrites⟩ := log_follows_sessions false hclean
  have hnone := hbracketed ⟨rfl, rfl, trivial⟩
  refine ⟨s, hrun, ?_, hwrites [.init logging, .deinit] logging [] rfl (by simp)⟩
  rw [hclosed, hnone]
  simp

end SettingsInForce
