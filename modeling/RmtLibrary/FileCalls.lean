import RmtLibrary.AgentReplies

/-! # The file functions an agent runs

An agent whose import and export functions write down that they ran is compared with the agent
itself. What is written down for one transfer request is at most one call, that of the entry
whose name `strtok` cuts off first. -/
namespace FileCalls

open AgentReplies
open CString (Text nul nextToken)
open DatainfoAgent
open Idl (DataInfoType DataInfoRequest DataInfoReply)

variable {σ : Type}

/-- `import_func` or `export_func` of the entry with that name ran and returned `result`. -/
structure FileCall where
  type : DataInfoType
  callbackname : Text
  result : BitVec 32
  deriving DecidableEq, Repr

def record (type : DataInfoType) (callbackname : Text) (run : σ → BitVec 32 × σ)
    (w : σ × List FileCall) : BitVec 32 × σ × List FileCall :=
  ((run w.1).1, (run w.1).2, w.2 ++ [⟨type, callbackname, (run w.1).1⟩])

def recordFile (f : FileinfoFunc σ) : FileinfoFunc (σ × List FileCall) where
  callbackname := f.callbackname
  path := f.path
  importFunc := f.importFunc.map fun importFunc filename binary len =>
    record .importFile f.callbackname (importFunc filename binary len)
  exportFunc := f.exportFunc.map fun exportFunc filename content len =>
    record .exportFile f.callbackname (exportFunc filename content len)

def recordData (f : DatainfoFunc σ) : DatainfoFunc (σ × List FileCall) where
  key := f.key
  getFunc := f.getFunc.map fun get w => ((get w.1).1, (get w.1).2, w.2)
  setFunc := f.setFunc.map fun set value w => ((set value w.1).1, (set value w.1).2, w.2)

def recordAgent (agent : Agent σ) : Agent (σ × List FileCall) where
  myid := agent.myid
  datainfoFuncMaps := agent.datainfoFuncMaps.map recordData
  fileinfoFuncMaps := agent.fileinfoFuncMaps.map recordFile
  datainfoValSize := agent.datainfoValSize
  writeFile path bytes w := (agent.writeFile path bytes w.1).map (·, w.2)
  readFile path w := agent.readFile path w.1

def isTransfer : DataInfoType → Bool
  | .importFile => true
  | .exportFile => true
  | _ => false

def provides (type : DataInfoType) (f : FileinfoFunc σ) : Bool :=
  match type with
  | .importFile => f.importFunc.isSome
  | .exportFile => f.exportFunc.isSome
  | _ => false

/-- `strtok` hands the name on unchanged, and the first entry with it has the function. -/
def Serves (agent : Agent σ) (type : DataInfoType) (callbackname : Text) : Prop :=
  callbackname ≠ [] ∧ ';' ∉ callbackname ∧
    ∃ f, agent.fileinfoFuncMaps.find? (·.callbackname == callbackname) = some f ∧
      provides type f = true

theorem saveFile_record (agent : Agent σ) (f : FileinfoFunc σ) (filename : Option Text)
    (binary : List UInt8) (w : σ) (calls : List FileCall) :
    saveFile (recordAgent agent) (recordFile f) filename binary (w, calls) =
      (saveFile agent f filename binary w).map (·, calls) := by
  cases hp : f.path with
  | none => simp [saveFile, recordFile, hp]
  | some path =>
    cases hf : filepath path filename <;> simp [saveFile, recordFile, hp, hf, recordAgent]

def SameStep (r : Option ((Text × List UInt8) × σ))
    (r' : Option ((Text × List UInt8) × σ × List FileCall)) : Prop :=
  r'.map (fun out => (out.1, out.2.1)) = r

theorem importStep_record (agent : Agent σ) (f : FileinfoFunc σ) (filename : Option Text)
    (binary : List UInt8) (w : σ) :
    SameStep (importStep agent f filename binary w)
      (importStep (recordAgent agent) (recordFile f) filename binary (w, [])) := by
  simp only [SameStep, importStep, saveFile_record]
  cases saveFile agent f filename binary w with
  | none => rfl
  | some w₁ => cases hf : f.importFunc <;> simp [recordFile, hf, record]

theorem exportStep_record (agent : Agent σ) (f : FileinfoFunc σ) (filename : Option Text)
    (binary : List UInt8) (w : σ) :
    SameStep (exportStep agent f filename binary w)
      (exportStep (recordAgent agent) (recordFile f) filename binary (w, [])) := by
  have hcontent : fileContent (recordAgent agent) (recordFile f) filename (w, []) =
      fileContent agent f filename w := by
    cases hp : f.path <;> simp [fileContent, recordFile, recordAgent, hp]
  simp only [SameStep, exportStep, hcontent]
  cases fileContent agent f filename w with
  | none => rfl
  | some content => cases hf : f.exportFunc <;> simp [recordFile, hf, record]

/-- What the entry writes down, and how the reply's text tells it. -/
def Recorded (type : DataInfoType) (f : FileinfoFunc σ) (text : Text) (calls : List FileCall) :
    Prop :=
  (provides type f = false ∧ calls = []) ∨
    provides type f = true ∧ ∃ result, calls = [⟨type, f.callbackname, result⟩] ∧
      text = CString.formatInt result.toInt

theorem importStep_recorded {agent : Agent σ} {f : FileinfoFunc σ} {filename : Option Text}
    {binary : List UInt8} {w w' : σ} {r : Text × List UInt8} {calls : List FileCall}
    (h : importStep (recordAgent agent) (recordFile f) filename binary (w, []) =
      some (r, w', calls)) : Recorded .importFile f r.1 calls := by
  simp only [importStep, saveFile_record] at h
  cases hs : saveFile agent f filename binary w with
  | none => simp [hs] at h
  | some w₁ =>
    cases hf : f.importFunc with
    | none =>
      simp only [hs, recordFile, hf, Option.map_some, Option.map_none, Option.bind_eq_bind,
        Option.bind_some, Option.some.injEq, Prod.mk.injEq] at h
      exact Or.inl ⟨by simp [provides, hf], h.2.2.symm⟩
    | some importFunc =>
      simp only [hs, recordFile, hf, record, Option.map_some, Option.bind_eq_bind,
        Option.bind_some, List.nil_append, Option.some.injEq, Prod.mk.injEq] at h
      obtain ⟨rfl, -, rfl⟩ := h
      exact Or.inr ⟨by simp [provides, hf], _, rfl, rfl⟩

theorem exportStep_recorded {agent : Agent σ} {f : FileinfoFunc σ} {filename : Option Text}
    {binary : List UInt8} {w w' : σ} {r : Text × List UInt8} {calls : List FileCall}
    (h : exportStep (recordAgent agent) (recordFile f) filename binary (w, []) =
      some (r, w', calls)) : Recorded .exportFile f r.1 calls := by
  simp only [exportStep, Option.bind_eq_bind, Option.bind_eq_some_iff] at h
  obtain ⟨content, -, h⟩ := h
  cases hf : f.exportFunc with
  | none =>
    simp only [recordFile, hf, Option.map_none, Option.some.injEq, Prod.mk.injEq] at h
    exact Or.inl ⟨by simp [provides, hf], h.2.2.symm⟩
  | some exportFunc =>
    simp only [recordFile, hf, record, Option.map_some, List.nil_append, Option.some.injEq,
      Prod.mk.injEq] at h
    obtain ⟨rfl, -, rfl⟩ := h
    exact Or.inr ⟨by simp [provides, hf], _, rfl, rfl⟩

inductive Found (agent : Agent σ) (run : FileinfoFunc σ → Option Text → List UInt8 → σ →
    Option ((Text × List UInt8) × σ)) (msg : Text) (binary : List UInt8) (w : σ) :
    (Text × List UInt8) × σ → Prop where
  | noMap : agent.fileinfoFuncMaps = [] → Found agent run msg binary w (([], []), w)
  | noMatch {tok rest} : nextToken ';' msg = some (tok, rest) →
      agent.fileinfoFuncMaps.find? (·.callbackname == tok) = none →
      Found agent run msg binary w (([], []), w)
  | entry {tok rest f filename out} : nextToken ';' msg = some (tok, rest) →
      agent.fileinfoFuncMaps.find? (·.callbackname == tok) = some f →
      run f filename binary w = some out → Found agent run msg binary w out

/-- Two calls of `strtok`: the first token, and that the second leaves it alone. -/
theorem strtok_twice {msg : Text} (hn : nul ∉ msg) :
    ∃ m p s m' p' s', CString.strtokR ';' (CString.ofText msg) 0 = some (m, p, s) ∧
      CString.strtokR ';' m s = some (m', p', s') ∧
      ((p = none ∧ nextToken ';' msg = none) ∨
        ∃ q tok rest, p = some q ∧ nextToken ';' msg = some (tok, rest) ∧
          CString.cstr m' q = some tok) := by
  have hsemi : ';' ≠ nul := by decide
  rcases CString.nextToken_cases ';' msg with
    ⟨hds, hnone⟩ | ⟨ds, tok, hds, hne, hd, ⟨rfl, htok⟩ | ⟨rest, rfl, htok⟩⟩
  · have hfirst := CString.strtokR_none hsemi hds [] []
    obtain ⟨post, p, s, hsecond⟩ :=
      CString.strtokR_prefix hsemi (t := []) List.not_mem_nil msg []
    simp only [List.nil_append, List.length_nil, Nat.zero_add] at hfirst hsecond
    exact ⟨_, _, _, _, _, _, hfirst, hsecond, Or.inl ⟨rfl, hnone⟩⟩
  · have hnt : nul ∉ tok := fun hm => hn (by simp [hm])
    have hfirst := CString.strtokR_last hds hne hd hnt [] []
    obtain ⟨post, p, s, hsecond⟩ :=
      CString.strtokR_prefix hsemi (t := []) List.not_mem_nil (ds ++ tok) []
    have hlast := CString.strtokR_none hsemi (List.forall_mem_nil _) (ds ++ tok) []
    simp only [List.nil_append, List.length_nil, Nat.zero_add, List.append_assoc,
      List.length_append, Nat.add_zero] at hfirst hlast
    refine ⟨_, _, _, _, _, _, by rw [CString.ofText, List.append_assoc]; exact hfirst, hlast,
      Or.inr ⟨ds.length, tok, none, rfl, htok, ?_⟩⟩
    exact CString.cstr_after hnt ds []
  · have hnt : nul ∉ tok := fun hm => hn (by simp [hm])
    have hnr : nul ∉ rest := fun hm => hn (by simp [hm])
    have hfirst := CString.strtokR_more hsemi hds hne hd hnt [] (rest ++ [nul])
    obtain ⟨post, p, s, hsecond⟩ :=
      CString.strtokR_prefix hsemi hnr (ds ++ tok ++ [nul]) []
    simp only [List.nil_append, List.length_nil, Nat.zero_add, List.append_assoc,
      List.length_append, List.length_cons, List.cons_append] at hfirst hsecond
    rw [← Nat.add_assoc] at hsecond
    refine ⟨_, _, _, _, _, _, ?_, hsecond, Or.inr ⟨ds.length, tok, some rest, rfl, htok, ?_⟩⟩
    · simpa [CString.ofText] using hfirst
    · exact CString.cstr_after hnt ds post

theorem strtok_names {msg : Text} (hn : nul ∉ msg) :
    ∃ m p s m' p' s', CString.strtokR ';' (CString.ofText msg) 0 = some (m, p, s) ∧
      CString.strtokR ';' m s = some (m', p', s') ∧
      argText m' p = some (CString.pieces ';' msg)[0]? ∧
      argText m' p' = some (CString.pieces ';' msg)[1]? := by
  have hsemi : ';' ≠ nul := by decide
  obtain ⟨m, p, s, m', p', s', hfirst, hsecond, htok⟩ := strtok_twice hn
  have hboth : CString.strtokNth ';' 1 (CString.ofText msg) 0 = some (m', p', s') := by
    simp only [CString.strtokNth, hfirst, Option.bind_eq_bind, Option.bind_some, hsecond]
  have hnth := CString.strtokNth_eq hsemi 1 hn [] []
  refine ⟨m, p, s, m', p', s', hfirst, hsecond, ?_, ?_⟩
  · rw [CString.pieces_getElem?, CString.nthToken]
    rcases htok with ⟨rfl, hnone⟩ | ⟨q, tok, rest, rfl, hnext, hcstr⟩
    · rw [hnone]
      rfl
    · rw [hnext, argText, hcstr]
      rfl
  · rw [CString.pieces_getElem?]
    simp only [List.nil_append, List.length_nil] at hnth
    rw [show msg ++ [nul] = CString.ofText msg from rfl, hboth] at hnth
    cases htok' : CString.nthToken ';' 1 msg with
    | none =>
      rw [htok'] at hnth
      obtain ⟨m₀, s₀, hcall⟩ := hnth
      obtain ⟨-, hnull⟩ := Prod.mk.inj (Option.some.inj hcall)
      obtain ⟨rfl, -⟩ := Prod.mk.inj hnull
      rfl
    | some r =>
      obtain ⟨tok, rest⟩ := r
      rw [htok'] at hnth
      obtain ⟨hnt, -, pre, s₀, hcall⟩ := hnth
      simp only [Option.some.injEq, Prod.mk.injEq] at hcall
      obtain ⟨rfl, rfl, -⟩ := hcall
      rw [argText, CString.cstr_after hnt]
      rfl

def runNamed (agent : Agent σ) (run : FileinfoFunc σ → Option Text → List UInt8 → σ →
    Option ((Text × List UInt8) × σ)) (callbackname : Text) (filename : Option Text)
    (binary : List UInt8) (w : σ) : Option ((Text × List UInt8) × σ) :=
  match agent.fileinfoFuncMaps.find? (·.callbackname == callbackname) with
  | none => some (([], []), w)
  | some f => run f filename binary w

theorem runNamed_found {agent : Agent σ} {callbackname : Text} {f : FileinfoFunc σ}
    (hf : agent.fileinfoFuncMaps.find? (·.callbackname == callbackname) = some f)
    (run : FileinfoFunc σ → Option Text → List UInt8 → σ → Option ((Text × List UInt8) × σ))
    (filename : Option Text) (binary : List UInt8) (w : σ) :
    runNamed agent run callbackname filename binary w = run f filename binary w := by
  rw [runNamed, hf]

def selected (agent : Agent σ) (msg : Text) : Option (FileinfoFunc σ) :=
  (CString.pieces ';' msg)[0]?.bind fun name =>
    agent.fileinfoFuncMaps.find? (·.callbackname == name)

theorem fileBranch_eq (agent : Agent σ) (run : FileinfoFunc σ → Option Text → List UInt8 →
      σ → Option ((Text × List UInt8) × σ)) {msg : Text} (hn : nul ∉ msg) (binary : List UInt8)
    (w : σ) : fileBranch agent run msg binary w =
      if agent.fileinfoFuncMaps = [] then some (([], []), w)
      else (CString.pieces ';' msg)[0]?.bind fun callbackname =>
        runNamed agent run callbackname (CString.pieces ';' msg)[1]? binary w := by
  obtain ⟨m, p, s, m', p', s', hfirst, hsecond, hname, hfile⟩ := strtok_names hn
  simp only [fileBranch, hfirst, hsecond, Option.bind_eq_bind, Option.bind_some, hfile,
    List.isEmpty_iff]
  split
  · rfl
  · cases p with
    | none =>
      rw [← Option.some.inj hname]
      rfl
    | some q =>
      obtain ⟨name, hcstr, hpiece⟩ := Option.map_eq_some_iff.mp hname
      simp only [← hpiece, Option.bind_some, hcstr]
      rfl

theorem fileBranch_found {agent : Agent σ} {run : FileinfoFunc σ → Option Text → List UInt8 →
      σ → Option ((Text × List UInt8) × σ)} {msg : Text} (hn : nul ∉ msg) {binary : List UInt8}
    {w : σ} {out : (Text × List UInt8) × σ} (h : fileBranch agent run msg binary w = some out) :
    Found agent run msg binary w out := by
  rw [fileBranch_eq agent run hn, CString.pieces_getElem?, CString.nthToken] at h
  by_cases hmap : agent.fileinfoFuncMaps = []
  · rw [if_pos hmap] at h
    exact Option.some.inj h ▸ .noMap hmap
  · rw [if_neg hmap] at h
    obtain ⟨tok, htok, h⟩ := Option.bind_eq_some_iff.mp h
    obtain ⟨⟨tok, rest⟩, hnext, rfl⟩ := Option.map_eq_some_iff.mp htok
    cases hf : agent.fileinfoFuncMaps.find? (·.callbackname == tok) with
    | none =>
      simp only [runNamed, hf, Option.some.injEq] at h
      exact h ▸ .noMatch hnext hf
    | some f =>
      simp only [runNamed, hf] at h
      exact .entry hnext hf h

def exportBinary (content : Option (List UInt8)) : List UInt8 :=
  (content.getD []).take ((content.getD []).length % 2 ^ 32)

theorem exportStep_binary {agent : Agent σ} {f : FileinfoFunc σ} {filename : Option Text}
    {w : σ} {content : Option (List UInt8)}
    (hcontent : fileContent agent f filename w = some content) (binary : List UInt8) :
    ∃ text w', exportStep agent f filename binary w =
      some ((text, exportBinary content), w') := by
  simp only [exportStep, hcontent, Option.bind_eq_bind, Option.bind_some]
  cases f.exportFunc with
  | none => exact ⟨_, _, rfl⟩
  | some exportFunc => exact ⟨_, _, rfl⟩

def fileStep (agent : Agent σ) (type : DataInfoType) (f : FileinfoFunc σ)
    (filename : Option Text) (binary : List UInt8) (w : σ) :
    Option ((Text × List UInt8) × σ) :=
  match type with
  | .importFile => importStep agent f filename binary w
  | _ => exportStep agent f filename binary w

theorem handle_transfer (agent : Agent σ) {req : DataInfoRequest}
    (ht : isTransfer req.type = true) (i : ℕ) (w : σ) :
    handle agent req i w = (fileBranch agent (fileStep agent req.type) req.msg req.binary w).map
      fun out => (some out.1, out.2) := by
  unfold handle
  cases hreq : req.type with
  | importFile => rfl
  | exportFile => rfl
  | _ => simp [hreq, isTransfer] at ht

theorem fileStep_record (agent : Agent σ) (type : DataInfoType) (f : FileinfoFunc σ)
    (filename : Option Text) (binary : List UInt8) (w : σ) :
    SameStep (fileStep agent type f filename binary w)
      (fileStep (recordAgent agent) type (recordFile f) filename binary (w, [])) := by
  cases type with
  | importFile => exact importStep_record agent f filename binary w
  | _ => exact exportStep_record agent f filename binary w

theorem fileStep_recorded {agent : Agent σ} {type : DataInfoType} (ht : isTransfer type = true)
    {f : FileinfoFunc σ} {filename : Option Text} {binary : List UInt8} {w w' : σ}
    {r : Text × List UInt8} {calls : List FileCall}
    (h : fileStep (recordAgent agent) type (recordFile f) filename binary (w, []) =
      some (r, w', calls)) : Recorded type f r.1 calls := by
  cases type with
  | importFile => exact importStep_recorded h
  | exportFile => exact @exportStep_recorded _ _ _ filename binary _ _ _ _ h
  | _ => simp [isTransfer] at ht

theorem find_recorded (agent : Agent σ) (name : Text) :
    (recordAgent agent).fileinfoFuncMaps.find? (·.callbackname == name) =
      (agent.fileinfoFuncMaps.find? (·.callbackname == name)).map recordFile := by
  rw [recordAgent, List.find?_map]
  rfl

theorem handle_record (agent : Agent σ) {req : DataInfoRequest}
    (ht : isTransfer req.type = true) (i : ℕ) (w : σ) :
    (handle (recordAgent agent) req i (w, [])).map (fun out => (out.1, out.2.1)) =
      handle agent req i w := by
  rw [handle_transfer agent ht, handle_transfer (recordAgent agent) ht]
  simp only [fileBranch, Option.bind_eq_bind, find_recorded]
  cases CString.strtokR ';' (CString.ofText req.msg) 0 with
  | none => rfl
  | some first =>
    obtain ⟨m, callbackname, s⟩ := first
    simp only [Option.bind_some]
    cases CString.strtokR ';' m s with
    | none => rfl
    | some second =>
      obtain ⟨m', filename, s'⟩ := second
      have hempty : (recordAgent agent).fileinfoFuncMaps.isEmpty =
          agent.fileinfoFuncMaps.isEmpty := by simp [recordAgent]
      simp only [Option.bind_some, hempty]
      split
      · rfl
      · cases callbackname with
        | none => rfl
        | some q =>
          simp only [Option.bind_some]
          cases CString.cstr m' q with
          | none => rfl
          | some name =>
            simp only [Option.bind_some]
            cases argText m' filename with
            | none => rfl
            | some arg =>
              simp only [Option.bind_some]
              cases agent.fileinfoFuncMaps.find? (·.callbackname == name) with
              | none => rfl
              | some f =>
                have hsame := fileStep_record agent req.type f arg req.binary w
                rw [SameStep] at hsame
                simp only [Option.map_some, ← hsame]
                cases fileStep (recordAgent agent) req.type (recordFile f) arg req.binary
                  (w, []) <;> rfl

/-- The reply's number is what the function of the requested name returned, if and only if the
agent serves the name. -/
theorem handle_calls {agent : Agent σ} {req : DataInfoRequest} (ht : isTransfer req.type = true)
    {callbackname filename : Text} (hmsg : req.msg = callbackname ++ ';' :: filename)
    (hn : nul ∉ req.msg) {i : ℕ} {w w' : σ} {msg : Text} {binary : List UInt8}
    {calls : List FileCall}
    (h : handle (recordAgent agent) req i (w, []) = some (some (msg, binary), w', calls)) :
    (∃ result, ⟨req.type, callbackname, result⟩ ∈ calls ∧
        (CString.atoi msg).toInt = result.toInt) ↔ Serves agent req.type callbackname := by
  rw [handle_transfer _ ht, Option.map_eq_some_iff] at h
  obtain ⟨⟨r, out⟩, hbranch, h⟩ := h
  simp only [Prod.mk.injEq, Option.some.injEq] at h
  obtain ⟨rfl, rfl⟩ := h
  have hnone : calls = [] → ¬ Serves agent req.type callbackname →
      ((∃ result, ⟨req.type, callbackname, result⟩ ∈ calls ∧
        (CString.atoi msg).toInt = result.toInt) ↔ Serves agent req.type callbackname) := by
    rintro rfl hno
    simp [hno]
  have htok : ∀ {tok rest}, nextToken ';' req.msg = some (tok, rest) →
      callbackname ≠ [] → ';' ∉ callbackname → tok = callbackname := by
    intro tok rest hnext hne hd
    rw [hmsg, CString.nextToken_cons hne hd] at hnext
    exact (Prod.mk.inj (Option.some.inj hnext)).1.symm
  cases fileBranch_found hn hbranch with
  | noMap hmap =>
    apply hnone rfl
    rintro ⟨-, -, f, hf, -⟩
    have hmap' : agent.fileinfoFuncMaps = [] := by simpa [recordAgent] using hmap
    simp [hmap'] at hf
  | noMatch hnext hfind =>
    apply hnone rfl
    rintro ⟨hne, hd, f, hf, -⟩
    rw [htok hnext hne hd, find_recorded, hf] at hfind
    cases hfind
  | @entry tok rest f' filename' _ hnext hfind hrun =>
    rw [find_recorded, Option.map_eq_some_iff] at hfind
    obtain ⟨f, hf, rfl⟩ := hfind
    have hname : f.callbackname = tok := by simpa using List.find?_some hf
    rcases fileStep_recorded ht hrun with ⟨hno, rfl⟩ | ⟨hyes, result, rfl, htext⟩
    · apply hnone rfl
      rintro ⟨hne, hd, g, hg, hyes⟩
      rw [← htok hnext hne hd, hf] at hg
      obtain rfl : f = g := Option.some.inj hg
      rw [hno] at hyes
      cases hyes
    · constructor
      · rintro ⟨result', hmem, -⟩
        simp only [List.mem_singleton, FileCall.mk.injEq] at hmem
        have hreq : callbackname = tok := hmem.2.1.trans hname
        obtain ⟨htne, htd⟩ := CString.nextToken_token hnext
        subst hreq
        exact ⟨htne, htd, f, hf, hyes⟩
      · rintro ⟨hne, hd, -⟩
        refine ⟨result, ?_, ?_⟩
        · rw [hname, htok hnext hne hd]
          exact List.mem_singleton.mpr rfl
        · have hmsg' : msg = CString.formatInt result.toInt := htext
          rw [hmsg', CString.atoi_formatInt]

structure Answered where
  req : DataInfoRequest
  reply : DataInfoReply
  calls : List FileCall
  deriving DecidableEq, Repr

/-- The transfers among the requests that an agent handles one after the other. -/
def answered (agent : Agent σ) : List DataInfoRequest → σ → List Answered
  | [], _ => []
  | req :: reqs, w =>
    match foundIdx agent req with
    | none => answered agent reqs w
    | some i =>
      if isTransfer req.type then
        match handle (recordAgent agent) req i (w, []) with
        | none => []
        | some (none, w, _) => answered agent reqs w
        | some (some (msg, binary), w, calls) =>
          ⟨req, ⟨agent.myid, req.type, req.randomSeq, msg, binary⟩, calls⟩ ::
            answered agent reqs w
      else
        match handle agent req i w with
        | none => []
        | some (_, w) => answered agent reqs w

/-- The reply and the record come from the agent's branch for the request. -/
structure Handled (agent : Agent σ) (a : Answered) : Prop where
  transfer : isTransfer a.req.type = true
  addressed : agent.myid ∈ a.req.idList
  device : a.reply.deviceID = agent.myid
  type : a.reply.type = a.req.type
  randomSeq : a.reply.randomSeq = a.req.randomSeq
  branch : ∃ i w w', handle (recordAgent agent) a.req i (w, []) =
    some (some (a.reply.msg, a.reply.binary), w', a.calls)

theorem answered_skip {agent : Agent σ} {req : DataInfoRequest} (h : foundIdx agent req = none)
    (reqs : List DataInfoRequest) (w : σ) :
    answered agent (req :: reqs) w = answered agent reqs w := by
  rw [answered, h]

theorem answered_other {agent : Agent σ} {req : DataInfoRequest} {i : ℕ}
    (hi : foundIdx agent req = some i) (ht : isTransfer req.type = false) {w w' : σ}
    {result : Option (Text × List UInt8)} (h : handle agent req i w = some (result, w'))
    (reqs : List DataInfoRequest) :
    answered agent (req :: reqs) w = answered agent reqs w' := by
  simp only [answered, hi, ht, h, Bool.false_eq_true, if_false]

theorem answered_transfer {agent : Agent σ} {req : DataInfoRequest} {i : ℕ}
    (hi : foundIdx agent req = some i) (ht : isTransfer req.type = true) {w w' : σ} {msg : Text}
    {binary : List UInt8} (h : handle agent req i w = some (some (msg, binary), w'))
    (reqs : List DataInfoRequest) :
    ∃ calls, Handled agent ⟨req, ⟨agent.myid, req.type, req.randomSeq, msg, binary⟩, calls⟩ ∧
      answered agent (req :: reqs) w =
        ⟨req, ⟨agent.myid, req.type, req.randomSeq, msg, binary⟩, calls⟩ ::
          answered agent reqs w' := by
  have hrec := handle_record agent ht i w
  rw [h, Option.map_eq_some_iff] at hrec
  obtain ⟨⟨result, w₁, calls⟩, hh, heq⟩ := hrec
  obtain ⟨rfl, rfl⟩ := Prod.mk.inj heq
  have haddressed := foundIdx_some hi
  rw [AgentReplies.addressed, List.contains_iff_mem] at haddressed
  exact ⟨calls, ⟨ht, haddressed, rfl, rfl, rfl, i, w, w₁, hh⟩, by
    simp only [answered, hi, ht, hh, if_true]⟩

theorem handle_transfer_some {agent : Agent σ} {req : DataInfoRequest}
    (ht : isTransfer req.type = true) {i : ℕ} {w w' : σ} {result : Option (Text × List UInt8)}
    (h : handle agent req i w = some (result, w')) : ∃ r, result = some r := by
  have hknown := handle_known h
  cases hreq : req.type <;> simp [hreq, isTransfer, known] at ht hknown
  all_goals exact Option.isSome_iff_exists.mp hknown

theorem answered_spec {agent : Agent σ} {reqs : List DataInfoRequest} {w w' : σ}
    {replies : List DataInfoReply} (h : answerAll agent reqs w = some (replies, w')) :
    (answered agent reqs w).map Answered.reply = replies.filter (isTransfer ·.type) ∧
      ∀ a ∈ answered agent reqs w, a.req ∈ reqs ∧ Handled agent a := by
  induction reqs generalizing w replies with
  | nil =>
    simp only [answerAll, Option.some.injEq, Prod.mk.injEq] at h
    simp [answered, ← h.1]
  | cons req reqs ih =>
    have hlater : ∀ {w : σ} {replies : List DataInfoReply},
        answerAll agent reqs w = some (replies, w') →
        (answered agent reqs w).map Answered.reply = replies.filter (isTransfer ·.type) ∧
          ∀ a ∈ answered agent reqs w, a.req ∈ req :: reqs ∧ Handled agent a := by
      intro w replies h
      obtain ⟨hmap, hall⟩ := ih h
      exact ⟨hmap, fun a ha => ⟨List.mem_cons_of_mem _ (hall a ha).1, (hall a ha).2⟩⟩
    cases hi : foundIdx agent req with
    | none =>
      simp only [answerAll, hi] at h
      rw [answered_skip hi]
      exact hlater h
    | some i =>
      simp only [answerAll, hi, Option.bind_eq_bind, Option.bind_eq_some_iff] at h
      obtain ⟨⟨result, w₁⟩, hh, ⟨rest, w₂⟩, hrest, h⟩ := h
      cases ht : isTransfer req.type with
      | false =>
        rw [answered_other hi ht hh]
        cases result with
        | none =>
          obtain ⟨rfl, rfl⟩ := Prod.mk.inj (Option.some.inj h)
          exact hlater hrest
        | some r =>
          obtain ⟨rfl, rfl⟩ := Prod.mk.inj (Option.some.inj h)
          rw [List.filter_cons_of_neg (by simp [ht])]
          exact hlater hrest
      | true =>
        obtain ⟨⟨msg, binary⟩, rfl⟩ := handle_transfer_some ht hh
        obtain ⟨rfl, rfl⟩ := Prod.mk.inj (Option.some.inj h)
        obtain ⟨calls, hhandled, hcons⟩ := answered_transfer hi ht hh reqs
        obtain ⟨hmap, hall⟩ := hlater hrest
        rw [hcons, List.filter_cons_of_pos (by simp [ht])]
        refine ⟨by simp [hmap], ?_⟩
        intro a ha
        rcases List.mem_cons.mp ha with rfl | ha
        · exact ⟨List.mem_cons_self, hhandled⟩
        · exact hall a ha

end FileCalls
