import RmtLibrary.CallbackResult
import RmtLibrary.SequentialObject
import RmtLibrary.TransferNames

/-! # Files of a device

The directories an agent registers make it a store of files: an import puts its bytes under the
name it gives, an export answers with what was put there last. A file that was sent and is asked
for later is the one that comes back, unless another import has replaced it in between. -/
namespace FileStore

open AgentReplies
open CallbackResult
open CString (Text nul pieces)
open DatainfoAgent
open DdsTransport (Sample taken)
open DeviceRegistry
open DevinfoServer
open FileCalls
open FileTransfer
open GuardedExecution
open Idl (DataInfoType DataInfoRequest DataInfoReply)
open SequentialObject

variable {n : ℕ} {σ φ : Type}

/-- What the store holds. Paths name its files, two of them possibly the same. -/
abbrev Files (φ : Type) := φ → Option (List UInt8)

inductive FileOp (φ : Type) where
  | put (file : φ) (bytes : List UInt8)
  | get (file : φ)
  | skip

def FileOp.run [DecidableEq φ] : FileOp φ → Files φ → List UInt8 × Files φ
  | .put file bytes, files => ([], Function.update files file (some bytes))
  | .get file, files => (exportBinary (files file), files)
  | .skip, files => ([], files)

/-- `writeFile` and `readFile` act on files, and no function of the user does. -/
structure KeepsFiles [DecidableEq φ] (agent : Agent σ) (locate : Text → φ) (files : σ → Files φ) :
    Prop where
  write : ∀ path bytes w w', agent.writeFile path bytes w = some w' →
    files w' = Function.update (files w) (locate path) (some bytes)
  read : ∀ path w, agent.readFile path w = files w (locate path)
  importFunc : ∀ f ∈ agent.fileinfoFuncMaps, ∀ run, f.importFunc = some run →
    ∀ filename binary len w, files (run filename binary len w).2 = files w
  exportFunc : ∀ f ∈ agent.fileinfoFuncMaps, ∀ run, f.exportFunc = some run →
    ∀ filename content len w, files (run filename content len w).2 = files w
  getFunc : ∀ f ∈ agent.datainfoFuncMaps, ∀ get, f.getFunc = some get →
    ∀ w, files (get w).2 = files w
  setFunc : ∀ f ∈ agent.datainfoFuncMaps, ∀ set, f.setFunc = some set →
    ∀ value w, files (set value w).2 = files w

def transferPath (agent : Agent σ) (msg : Text) : Option Text :=
  (selected agent msg).bind fun f => f.path.bind fun path => filepath path (pieces ';' msg)[1]?

def fileOp (agent : Agent σ) (locate : Text → φ) (req : DataInfoRequest) : FileOp φ :=
  match transferPath agent req.msg with
  | none => .skip
  | some path => if req.type = .importFile then .put (locate path) req.binary
    else .get (locate path)

def storeAnswer [DecidableEq φ] (agent : Agent σ) (locate : Text → φ) (req : DataInfoRequest)
    (files : Files φ) : Option (List UInt8 × Files φ) :=
  some ((fileOp agent locate req).run files)

theorem fileOp_skip {agent : Agent σ} (locate : Text → φ) {req : DataInfoRequest}
    (h : transferPath agent req.msg = none) : fileOp agent locate req = .skip := by
  rw [fileOp, h]

variable [DecidableEq φ]

theorem importStep_files {agent : Agent σ} {locate : Text → φ} {files : σ → Files φ}
    (hkeeps : KeepsFiles agent locate files) {f : FileinfoFunc σ} (hf : f ∈ agent.fileinfoFuncMaps)
    {filename : Option Text} {bytes : List UInt8} {w w' : σ} {r : Text × List UInt8}
    (h : importStep agent f filename bytes w = some (r, w')) :
    r.2 = [] ∧ match f.path.bind (filepath · filename) with
      | none => f.path = none ∧ files w' = files w
      | some path => files w' = Function.update (files w) (locate path) (some bytes) := by
  obtain ⟨w₁, hsave, h⟩ := Option.bind_eq_some_iff.mp h
  -- the function runs when the file is saved
  have hfunc : r.2 = [] ∧ files w' = files w₁ := by
    cases hi : f.importFunc with
    | none =>
      simp only [hi, Option.some.injEq, Prod.mk.injEq] at h
      obtain ⟨rfl, rfl⟩ := h
      exact ⟨rfl, rfl⟩
    | some run =>
      simp only [hi, Option.some.injEq, Prod.mk.injEq] at h
      obtain ⟨rfl, rfl⟩ := h
      exact ⟨rfl, hkeeps.importFunc f hf run hi _ _ _ _⟩
  refine ⟨hfunc.1, ?_⟩
  cases hp : f.path with
  | none =>
    simp only [saveFile, hp, Option.some.injEq] at hsave
    subst hsave
    exact ⟨rfl, hfunc.2⟩
  | some path =>
    simp only [saveFile, hp, Option.bind_eq_bind, Option.bind_eq_some_iff] at hsave
    obtain ⟨p, hfp, hwrite⟩ := hsave
    simp only [Option.bind_some, hfp]
    exact hfunc.2.trans (hkeeps.write p bytes w w₁ hwrite)

theorem exportStep_files {agent : Agent σ} {locate : Text → φ} {files : σ → Files φ}
    (hkeeps : KeepsFiles agent locate files) {f : FileinfoFunc σ} (hf : f ∈ agent.fileinfoFuncMaps)
    {filename : Option Text} {bytes : List UInt8} {w w' : σ} {r : Text × List UInt8}
    (h : exportStep agent f filename bytes w = some (r, w')) :
    files w' = files w ∧ match f.path.bind (filepath · filename) with
      | none => f.path = none ∧ r.2 = []
      | some path => r.2 = exportBinary (files w (locate path)) := by
  have hstep := h
  obtain ⟨content, hcontent, h⟩ := Option.bind_eq_some_iff.mp h
  obtain ⟨text, w₁, hbinary⟩ := exportStep_binary hcontent bytes
  have hr : r.2 = exportBinary content := by
    rw [hstep] at hbinary
    rw [(Prod.mk.inj (Option.some.inj hbinary)).1]
  constructor
  · cases he : f.exportFunc with
    | none =>
      simp only [he, Option.some.injEq, Prod.mk.injEq] at h
      rw [h.2]
    | some run =>
      simp only [he, Option.some.injEq, Prod.mk.injEq] at h
      rw [← h.2]
      exact hkeeps.exportFunc f hf run he _ _ _ _
  · cases hp : f.path with
    | none =>
      simp only [fileContent, hp, Option.some.injEq] at hcontent
      subst hcontent
      exact ⟨rfl, hr⟩
    | some path =>
      simp only [fileContent, hp, Option.map_eq_some_iff] at hcontent
      obtain ⟨p, hfp, hread⟩ := hcontent
      simp only [Option.bind_some, hfp]
      rw [hr, ← hread, hkeeps.read]

/-- An agent that handles a transfer does what the request asks of the store. -/
theorem handle_files {agent : Agent σ} {locate : Text → φ} {files : σ → Files φ}
    (hkeeps : KeepsFiles agent locate files) {req : DataInfoRequest}
    (ht : isTransfer req.type = true) (hn : nul ∉ req.msg) {j : ℕ} {w w' : σ} {msg : Text}
    {binary : List UInt8} (h : handle agent req j w = some (some (msg, binary), w')) :
    (fileOp agent locate req).run (files w) = (binary, files w') := by
  rw [TransferNames.handle_eq agent ht hn] at h
  split at h
  · next hmap =>
    simp only [Option.map_some, Option.some.injEq, Prod.mk.injEq] at h
    obtain ⟨⟨-, rfl⟩, rfl⟩ := h
    have hnone : transferPath agent req.msg = none := by simp [transferPath, selected, hmap]
    rw [fileOp_skip locate hnone]
    rfl
  · obtain ⟨⟨r, w₁⟩, hrun, h⟩ := Option.map_eq_some_iff.mp h
    simp only [Prod.mk.injEq, Option.some.injEq] at h
    obtain ⟨rfl, rfl⟩ := h
    obtain ⟨name, hname, hrun⟩ := Option.bind_eq_some_iff.mp hrun
    cases hfind : agent.fileinfoFuncMaps.find? (·.callbackname == name) with
    | none =>
      rw [runNamed, hfind] at hrun
      obtain ⟨hr, rfl⟩ := Prod.mk.inj (Option.some.inj hrun)
      obtain ⟨rfl, rfl⟩ := Prod.mk.inj hr
      have hnone : transferPath agent req.msg = none := by
        simp [transferPath, selected, hname, hfind]
      rw [fileOp_skip locate hnone]
      rfl
    | some f =>
      rw [runNamed_found hfind] at hrun
      have hf := List.mem_of_find?_eq_some hfind
      have hpath : transferPath agent req.msg =
          f.path.bind (filepath · (pieces ';' req.msg)[1]?) := by
        simp [transferPath, selected, hname, hfind]
      rw [fileOp, hpath]
      cases htype : req.type with
      | importFile =>
        rw [htype] at hrun
        obtain ⟨hempty, hfiles⟩ := importStep_files hkeeps hf hrun
        obtain rfl : binary = [] := hempty
        split at hfiles <;> simp_all [FileOp.run]
      | exportFile =>
        rw [htype] at hrun
        have hstep : exportStep agent f (pieces ';' req.msg)[1]? req.binary w =
            some ((msg, binary), w₁) := hrun
        obtain ⟨hfiles, hempty⟩ := exportStep_files hkeeps hf hstep
        split at hempty <;> simp_all [FileOp.run]
      | _ => simp [htype, isTransfer] at ht

theorem getBranch_files {agent : Agent σ} {locate : Text → φ} {files : σ → Files φ}
    (hkeeps : KeepsFiles agent locate files) {msg text : Text} {w w' : σ}
    (h : getBranch agent msg w = some (text, w')) : files w' = files w := by
  simp only [getBranch, Option.bind_eq_bind, Option.bind_eq_some_iff] at h
  obtain ⟨⟨m, size, result, w₁⟩, hloop, h⟩ := h
  obtain ⟨rfl, rfl⟩ := Prod.mk.inj (Option.some.inj h)
  refine CString.tokenLoop_invariant (fun b : ℕ × Text × σ => files b.2.2 = files w) ?_ _
    rfl hloop
  rintro m₀ p ⟨size₀, text₀, w₀⟩ m₁ ⟨size₁, text₁, w₁'⟩ hfiles hstep
  simp only [getStep, Option.bind_eq_bind, Option.bind_eq_some_iff] at hstep
  obtain ⟨keys, -, hstep⟩ := hstep
  cases hf : agent.find keys with
  | none =>
    simp only [hf, Option.some.injEq, Prod.mk.injEq] at hstep
    rw [← hstep.2.2.2]
    exact hfiles
  | some f =>
    simp only [hf, Option.bind_eq_some_iff] at hstep
    obtain ⟨⟨value, w₂⟩, hvalue, appended, -, hstep⟩ := hstep
    simp only [Option.some.injEq, Prod.mk.injEq] at hstep
    rw [← hstep.2.2.2, ← hfiles]
    unfold getValue at hvalue
    cases hget : f.getFunc with
    | none =>
      simp only [hget, Option.map_eq_some_iff, Prod.mk.injEq] at hvalue
      obtain ⟨-, -, -, rfl⟩ := hvalue
      rfl
    | some get =>
      simp only [hget] at hvalue
      split at hvalue
      · obtain ⟨text, -, hvalue⟩ := Option.map_eq_some_iff.mp hvalue
        rw [← (Prod.mk.inj hvalue).2]
        exact hkeeps.getFunc f (List.mem_of_find?_eq_some hf) get hget w₀
      · cases hvalue

theorem setBranch_files {agent : Agent σ} {locate : Text → φ} {files : σ → Files φ}
    (hkeeps : KeepsFiles agent locate files) {type : DataInfoType} {msg text : Text}
    {foundIdx : ℕ} {w w' : σ} (h : setBranch agent type msg foundIdx w = some (text, w')) :
    files w' = files w := by
  simp only [setBranch, Option.bind_eq_bind, Option.bind_eq_some_iff] at h
  obtain ⟨⟨m, pairs⟩, -, ⟨m', result, w₁⟩, hloop, h⟩ := h
  obtain ⟨rfl, rfl⟩ := Prod.mk.inj (Option.some.inj h)
  refine CString.tokenLoop_invariant (fun b : Text × σ => files b.2 = files w) ?_ _ rfl hloop
  rintro m₀ p ⟨text₀, w₀⟩ m₁ ⟨text₁, w₁'⟩ hfiles hstep
  simp only [setStep, Option.bind_eq_bind, Option.bind_eq_some_iff] at hstep
  obtain ⟨⟨m₂, keyPtr, save⟩, -, keyAt, -, key, -, hstep⟩ := hstep
  cases hf : (agent.find key).bind DatainfoFunc.setFunc with
  | none =>
    simp only [hf, Option.some.injEq, Prod.mk.injEq] at hstep
    rw [← hstep.2.2]
    exact hfiles
  | some set =>
    simp only [hf, Option.bind_eq_some_iff] at hstep
    obtain ⟨value, -, appended, -, hstep⟩ := hstep
    simp only [Option.some.injEq, Prod.mk.injEq] at hstep
    obtain ⟨f, hfind, hset⟩ := Option.bind_eq_some_iff.mp hf
    rw [← hstep.2.2, ← hfiles]
    exact hkeeps.setFunc f (List.mem_of_find?_eq_some hfind) set hset value w₀

theorem handle_other_files {agent : Agent σ} {locate : Text → φ} {files : σ → Files φ}
    (hkeeps : KeepsFiles agent locate files) {req : DataInfoRequest}
    (ht : isTransfer req.type = false) {j : ℕ} {w w' : σ} {result : Option (Text × List UInt8)}
    (h : handle agent req j w = some (result, w')) : files w' = files w := by
  unfold handle at h
  cases hreq : req.type with
  | get =>
    simp only [hreq, Option.map_eq_some_iff, Prod.mk.injEq] at h
    obtain ⟨r, hbranch, -, rfl⟩ := h
    exact getBranch_files hkeeps hbranch
  | set | setSameValue =>
    simp only [hreq, Option.map_eq_some_iff, Prod.mk.injEq] at h
    obtain ⟨r, hbranch, -, rfl⟩ := h
    exact setBranch_files hkeeps hbranch
  | other v =>
    simp only [hreq, Option.some.injEq, Prod.mk.injEq] at h
    rw [← h.2]
  | _ => simp [hreq, isTransfer] at ht

def storeEntry (a : Answered) : DataInfoRequest × List UInt8 := (a.req, a.reply.binary)

theorem answered_files {agent : Agent σ} {locate : Text → φ} {files : σ → Files φ}
    (hkeeps : KeepsFiles agent locate files) {reqs : List DataInfoRequest}
    (ht : ∀ req ∈ reqs, isTransfer req.type = true → nul ∉ req.msg) {w w' : σ}
    {replies : List DataInfoReply} (h : answerAll agent reqs w = some (replies, w')) :
    Legal (storeAnswer agent locate) (files w) ((answered agent reqs w).map storeEntry)
      (files w') := by
  induction reqs generalizing w replies with
  | nil =>
    simp only [answerAll, Option.some.injEq, Prod.mk.injEq] at h
    exact congrArg files h.2
  | cons req reqs ih =>
    obtain ⟨hn, hreqs⟩ := List.forall_mem_cons.mp ht
    cases hi : foundIdx agent req with
    | none =>
      simp only [answerAll, hi] at h
      rw [answered_skip hi]
      exact ih hreqs h
    | some i =>
      simp only [answerAll, hi, Option.bind_eq_bind, Option.bind_eq_some_iff] at h
      obtain ⟨⟨result, w₁⟩, hh, ⟨rest, w₂⟩, hrest, h⟩ := h
      obtain rfl : w₂ = w' := by
        cases result <;> exact (Prod.mk.inj (Option.some.inj h)).2
      cases htype : isTransfer req.type with
      | false =>
        rw [answered_other hi htype hh, ← handle_other_files hkeeps htype hh]
        exact ih hreqs hrest
      | true =>
        obtain ⟨⟨msg, binary⟩, rfl⟩ := handle_transfer_some htype hh
        obtain ⟨calls, -, hcons⟩ := answered_transfer hi htype hh reqs
        rw [hcons]
        exact ⟨files w₁, congrArg some (handle_files hkeeps htype (hn htype) hh), ih hreqs hrest⟩

variable {agents : Fin n → Agent σ} {replyTimeout : ℤ} {world : Fin n → σ} {s s' : System n σ}
  {i : Fin n} {locate : Text → φ} {files : σ → Files φ}

def transfers (s : System n σ) (i : Fin n) : List (DataInfoRequest × List UInt8) :=
  (s.answers.filter (·.1 = i)).map fun ans => storeEntry ans.2

/-- What happens on device `i` besides the requests leaves its files alone. -/
def Undisturbed (i : Fin n) (files : σ → Files φ) (s : System n σ) : Event n σ → Prop
  | .agentWorld j w => j = i → ∀ file, files w file = files (s.agent i).world file
  | _ => True

theorem transfers_append (ans : Fin n × List Answered) (j : Fin n) (s : System n σ) :
    transfers { s with answers := s.answers ++ ans.2.map (ans.1, ·) } j =
      transfers s j ++ if ans.1 = j then ans.2.map storeEntry else [] := by
  simp only [transfers, List.filter_append, List.map_append, List.append_cancel_left_eq]
  split
  · next hj =>
    rw [List.filter_eq_self.mpr (by simp [hj]), List.map_map]
    rfl
  · next hj => rw [List.filter_eq_nil_iff.mpr (by simp [hj]), List.map_nil]

theorem stored_step (hkeeps : KeepsFiles (agents i) locate files) (ho : Orderly s)
    {first : Files φ} (h : Legal (storeAnswer (agents i) locate) first (transfers s i)
      (files (s.agent i).world)) {e : Event n σ} (hguard : Undisturbed i files s e)
    (hs : step agents replyTimeout s e = some s') :
    Legal (storeAnswer (agents i) locate) first (transfers s' i) (files (s'.agent i).world) := by
  obtain ⟨hp, hs⟩ := move_of_step hs
  cases e with
  | server e =>
    obtain ⟨server, -, rfl⟩ := Option.map_eq_some_iff.mp hs
    exact h
  | agentUpdate j pending =>
    obtain ⟨⟨agent, rest, sent⟩, hupdate, hs⟩ := Option.bind_eq_some_iff.mp hs
    obtain rfl := Option.some.inj hs
    have hspec := update_spec (agents j) (ho.agent j) pending
    simp only [hupdate] at hspec
    obtain ⟨-, hall, -, -⟩ := hspec
    have hnamed : ∀ req ∈ taken pending, isTransfer req.type = true → nul ∉ req.msg := by
      intro req hreq htype
      obtain ⟨sample, hm, rfl⟩ := List.mem_map.mp hreq
      obtain ⟨a, ha, hreq⟩ := List.mem_map.mp
        (hp sample ((List.takeWhile_sublist _).subset hm) (List.mem_takeWhile_imp hm) htype)
      rw [← hreq]
      exact (ho.asked a ha).text
    have happend := transfers_append (j, answered (agents j) (taken pending) (s.agent j).world) i s
    simp only [transfers] at happend ⊢
    rw [happend]
    by_cases hj : j = i
    · subst hj
      rw [if_pos rfl, Function.update_self]
      exact h.append (answered_files hkeeps hnamed hall)
    · rw [if_neg hj, List.append_nil, Function.update_of_ne (Ne.symm hj)]
      exact h
  | agentWorld j w =>
    obtain rfl := Option.some.inj hs
    by_cases hj : j = i
    · subst hj
      have hsame : files w = files (s.agent j).world := funext (hguard rfl)
      simpa [transfers, hsame] using h
    · simpa [transfers, Function.update_of_ne (Ne.symm hj)] using h

theorem stored_execution (hkeeps : KeepsFiles (agents i) locate files)
    (h : Execution (step agents replyTimeout) (Undisturbed i files) (initial world) s) :
    Orderly s ∧ Legal (storeAnswer (agents i) locate) (files (world i)) (transfers s i)
      (files (s.agent i).world) := by
  apply h.invariant (I := fun s => Orderly s ∧ Legal (storeAnswer (agents i) locate)
    (files (world i)) (transfers s i) (files (s.agent i).world))
  · exact ⟨orderly_initial world, rfl⟩
  · rintro s e t ⟨ho, hl⟩ hguard hs
    exact ⟨orderly_step ho hs, stored_step hkeeps ho hl hguard hs⟩

theorem grows (h : Execution (step agents replyTimeout) Ok s s') :
    (∃ asked, s'.asked = asked ++ s.asked) ∧ ∃ answers, s'.answers = s.answers ++ answers := by
  apply h.invariant (I := fun s' => (∃ asked, s'.asked = asked ++ s.asked) ∧
    ∃ answers, s'.answers = s.answers ++ answers)
  · exact ⟨⟨[], rfl⟩, [], (List.append_nil _).symm⟩
  · rintro u e v ⟨⟨asked, hasked⟩, answers, hanswers⟩ - hs
    obtain ⟨-, hs⟩ := move_of_step hs
    cases e with
    | server e =>
      obtain ⟨server, -, rfl⟩ := Option.map_eq_some_iff.mp hs
      refine ⟨⟨(askedBy u.server e).toList ++ asked, ?_⟩, answers, hanswers⟩
      rw [hasked, List.append_assoc]
    | agentUpdate j pending =>
      obtain ⟨⟨agent, rest, sent⟩, -, hs⟩ := Option.bind_eq_some_iff.mp hs
      obtain rfl := Option.some.inj hs
      exact ⟨⟨asked, hasked⟩, _, by rw [hanswers, List.append_assoc]⟩
    | agentWorld j w =>
      obtain rfl := Option.some.inj hs
      exact ⟨⟨asked, hasked⟩, answers, hanswers⟩

theorem transfer_of_reported (hids : Function.Injective fun i => (agents i).myid) {a : Asked}
    {res : TransferResult} (h : Reported agents s a (agents i).myid res) :
    ∃ ans : Answered, (i, ans) ∈ s.answers ∧ ans.req = a.req ∧
      ∃ env, replyStatus env ans.reply = (.done, res) := by
  obtain ⟨⟨j, ans⟩, hans, hreq, hid, henv⟩ := h
  obtain rfl : j = i := hids hid
  exact ⟨ans, hans, hreq, henv⟩

theorem mem_transfers {ans : Answered} (h : (i, ans) ∈ s.answers) :
    storeEntry ans ∈ transfers s i :=
  List.mem_map.mpr ⟨(i, ans), List.mem_filter.mpr ⟨h, by simp⟩, rfl⟩

theorem transfers_of_answers {more : List (Fin n × Answered)}
    (h : s'.answers = s.answers ++ more) : transfers s' i = transfers s i ++
      (more.filter (·.1 = i)).map fun ans => storeEntry ans.2 := by
  rw [transfers, h, List.filter_append, List.map_append, transfers]

/-- What answers the latest transfer of a device was not there when the latest one was another. -/
theorem answered_later (hi : Invariant agents s) (hi' : Invariant agents s') {id : ℕ}
    {a₁ a₂ : Asked} (ha₁ : latestFor id s.asked = some a₁) (ha₂ : latestFor id s'.asked = some a₂)
    (hne : a₁.req.type ≠ a₂.req.type) {asked : List Asked} {answers : List (Fin n × Answered)}
    (hasked : s'.asked = asked ++ s.asked) (hanswers : s'.answers = s.answers ++ answers)
    {ans : Fin n × Answered} (hans : ans ∈ s'.answers) (hreq : ans.2.req = a₂.req) :
    ans ∈ answers := by
  rw [hanswers] at hans
  refine (List.mem_append.mp hans).resolve_left ?_
  intro hearly
  obtain ⟨b, hb, hbreq⟩ := List.mem_map.mp (hi.answers _ hearly).1
  have hb' : b ∈ s'.asked := by
    rw [hasked]
    exact List.mem_append_right _ hb
  obtain rfl : b = a₂ := hi'.asked_inj hb' (latestFor_mem ha₂).1 (by rw [key, key, hbreq, hreq])
  rw [hasked, latestFor, List.find?_append, Option.or_eq_some_iff] at ha₂
  rcases ha₂ with hnew | ⟨-, hold⟩
  · -- the transfer would have been asked twice
    have hfresh := hi'.fresh
    rw [hasked, List.map_append] at hfresh
    exact (List.disjoint_of_nodup_append hfresh)
      (List.mem_map_of_mem (List.mem_of_find?_eq_some hnew)) (List.mem_map_of_mem hb)
  · exact hne (congrArg (fun a => a.req.type) (Option.some.inj (ha₁.symm.trans hold)))

theorem file_kept {agent : Agent σ} {history : List (DataInfoRequest × List UInt8)}
    {u u' : Files φ} {file : φ} {bytes : List UInt8}
    (h : Legal (storeAnswer agent locate) u history u') (hu : u file = some bytes)
    (hkeep : ∀ entry ∈ history, ∀ new, fileOp agent locate entry.1 = .put file new →
      new = bytes) : u' file = some bytes := by
  refine h.invariant (P := fun u => u file = some bytes) hu ?_
  intro entry hentry v v' hv hstep
  obtain rfl : ((fileOp agent locate entry.1).run v).2 = v' :=
    congrArg Prod.snd (Option.some.inj hstep)
  cases hop : fileOp agent locate entry.1 with
  | put other new =>
    by_cases hsame : other = file
    · subst hsame
      exact (Function.update_self _ _ _).trans (congrArg some (hkeep entry hentry new hop))
    · simpa [FileOp.run, Function.update_of_ne (Ne.symm hsame)] using hv
  | get other => exact hv
  | skip => exact hv

/-- The conditions under which a file that was sent is there when it is asked for. -/
def Settled (i : Fin n) (files : σ → Files φ) (s : System n σ) (e : Event n σ) : Prop :=
  Ok s e ∧ Undisturbed i files s e

instance [Fintype φ] (s : System n σ) : (e : Event n σ) → Decidable (Undisturbed i files s e)
  | .server _ => .isTrue trivial
  | .agentUpdate _ _ => .isTrue trivial
  | .agentWorld j w =>
    inferInstanceAs (Decidable (j = i → ∀ file, files w file = files (s.agent i).world file))

instance [Fintype φ] (s : System n σ) (e : Event n σ) : Decidable (Settled i files s e) :=
  inferInstanceAs (Decidable (Ok s e ∧ Undisturbed i files s e))

/-- Device 5 keeps one file, whatever its name, in a world that is this file. It has one key. -/
def locker (_ : Fin 1) : Agent (Option (List UInt8)) :=
  ⟨5, [⟨['k'], some fun w => (['v'], w), none⟩], [⟨['c'], some ['d'], none, none⟩], 8,
    fun _ bytes _ => some (some bytes), fun _ w => w⟩

def lockerAgent : Fin 1 := Fin.last 0

def kept (w : Option (List UInt8)) : Files Unit := fun _ => w

theorem locker_keeps (i : Fin 1) : KeepsFiles (locker i) (fun _ => ()) kept where
  write path bytes w w' h := by
    obtain rfl := Option.some.inj h
    funext file
    rw [Function.update_self]
    rfl
  read _ _ := rfl
  importFunc f hf run hrun := by
    obtain rfl := List.mem_singleton.mp hf
    cases hrun
  exportFunc f hf run hrun := by
    obtain rfl := List.mem_singleton.mp hf
    cases hrun
  getFunc f hf get hget w := by
    obtain rfl := List.mem_singleton.mp hf
    obtain rfl := Option.some.inj hget
    rfl
  setFunc f hf set hset := by
    obtain rfl := List.mem_singleton.mp hf
    cases hset

def poll (now : ℤ) : FileTransfer.Event := .poll ⟨now, fun _ => true, emptyResult⟩

def sent : List (Event 1 (Option (List UInt8))) :=
  [.server (TransferHistory.announceDevice 5),
    .server (.sendFile [5] ['c'] ['f'] [1, 2, 3] 3 100),
    .agentUpdate lockerAgent [⟨true, ⟨[5], .importFile, 3, ['c', ';', 'f'], [1, 2, 3]⟩⟩],
    .server (.replyArrives ⟨true, 5, .importFile, 3, [], []⟩), .server (poll 101)]

def fetched : List (Event 1 (Option (List UInt8))) :=
  [.server (.recvFile 5 ['c'] ['f'] 4 200),
    .agentUpdate lockerAgent [⟨true, ⟨[5], .get, 9, ['k', ';'], []⟩⟩,
      ⟨true, ⟨[5], .exportFile, 4, ['c', ';', 'f'], []⟩⟩],
    .server (.replyArrives ⟨true, 5, .exportFile, 4, [], [1, 2, 3]⟩), .server (poll 201)]

def lastTransfer (s : System 1 (Option (List UInt8))) :
    Option (Text × Text × DataInfoRequest) × Option (TransferStatus × Option TransferResult) :=
  ((latestFor 5 s.asked).map fun a => (a.callbackname, a.filename, a.req),
    rmtServerGetResult .running 5 s.server.registry)

end FileStore
