import RmtLibrary.FileCalls
import RmtLibrary.FileTransfer

/-! # The two names of a transfer

The server joins a callback name and a file name with a separator, the agent cuts them apart with
`strtok`. Names with a separator do not survive this, and an empty one becomes `NULL`. -/
namespace TransferNames

open CString (Text nul)
open DatainfoAgent
open FileCalls
open FileTransfer
open Idl (DataInfoType DataInfoRequest DataInfoReply)

variable {σ : Type}

/-- Every agent that is asked runs the entry of exactly that callback name on exactly that file
name. -/
def Delivered (req : DataInfoRequest) (callbackname filename : Text) : Prop :=
  ∀ (σ : Type) (agent : Agent σ) (i : ℕ) (w : σ), handle agent req i w =
    (runNamed agent (fileStep agent req.type) callbackname (some filename) req.binary w).map
      fun out => (some out.1, out.2)

def Plain (name : Text) : Prop := name ≠ [] ∧ ';' ∉ name

instance (name : Text) : Decidable (Plain name) := inferInstanceAs (Decidable (_ ∧ _))

/-- The loop over the entries: the argument of each `strcmp`, then the file name for `sprintf` if
the entry has a path, and the one for the function if it has one. -/
def entryPointers (type : DataInfoType) (callbackname filename : Option Text) :
    List (FileinfoFunc σ) → List (Option Text)
  | [] => []
  | f :: fs =>
    callbackname ::
      if callbackname = some f.callbackname then
        (if f.path.isSome then [filename] else []) ++
          (if provides type f then [filename] else [])
      else entryPointers type callbackname filename fs

/-- The pointers of one request. `none` in the list stands for `NULL`. -/
def pointers (agent : Agent σ) (type : DataInfoType) (msg : Text) :
    Option (List (Option Text)) := do
  let (m, callbackname, s) ← CString.strtokR ';' (CString.ofText msg) 0
  let (m, filename, _) ← CString.strtokR ';' m s
  some (entryPointers type (← argText m callbackname) (← argText m filename)
    agent.fileinfoFuncMaps)

def NeverNull (agent : Agent σ) (type : DataInfoType) (msg : Text) : Prop :=
  ∃ ptrs, pointers agent type msg = some ptrs ∧ none ∉ ptrs

theorem pieces_names_iff (callbackname filename : Text) :
    ((CString.pieces ';' (callbackname ++ ';' :: filename))[0]? = some callbackname ∧
      (CString.pieces ';' (callbackname ++ ';' :: filename))[1]? = some filename) ↔
      Plain callbackname ∧ Plain filename := by
  constructor
  · rintro ⟨hname, hfile⟩
    exact ⟨CString.mem_pieces (List.mem_of_getElem? hname),
      CString.mem_pieces (List.mem_of_getElem? hfile)⟩
  · rintro ⟨⟨hne, hd⟩, hne', hd'⟩
    rw [CString.pieces_append_delim, CString.pieces_single hd, CString.pieces_single hd',
      if_neg hne, if_neg hne']
    exact ⟨rfl, rfl⟩

theorem pointers_eq (agent : Agent σ) (type : DataInfoType) {msg : Text} (hn : nul ∉ msg) :
    pointers agent type msg = some (entryPointers type (CString.pieces ';' msg)[0]?
      (CString.pieces ';' msg)[1]? agent.fileinfoFuncMaps) := by
  obtain ⟨m, p, s, m', p', s', hfirst, hsecond, hname, hfile⟩ := strtok_names hn
  simp only [pointers, hfirst, hsecond, hname, hfile, Option.bind_eq_bind, Option.bind_some]

/-- An entry of the name `callbackname` whose functions tell whether they got `filename`. -/
def listener (callbackname filename : Text) : Agent Unit :=
  { myid := 1
    datainfoFuncMaps := []
    fileinfoFuncMaps := [⟨callbackname, none,
      some fun got _ _ w => (if got = some filename then 1 else 0, w),
      some fun got _ _ w => (if got = some filename then 1 else 0, w)⟩]
    datainfoValSize := 100
    writeFile := fun _ _ w => some w
    readFile := fun _ _ => none }

theorem handle_eq (agent : Agent σ) {req : DataInfoRequest} (ht : isTransfer req.type = true)
    (hn : nul ∉ req.msg) (i : ℕ) (w : σ) : handle agent req i w =
      (if agent.fileinfoFuncMaps = [] then some (([], []), w)
      else (CString.pieces ';' req.msg)[0]?.bind fun callbackname =>
        runNamed agent (fileStep agent req.type) callbackname (CString.pieces ';' req.msg)[1]?
          req.binary w).map fun out => (some out.1, out.2) := by
  rw [handle_transfer agent ht, fileBranch_eq agent _ hn]

theorem runNamed_listener {type : DataInfoType} (ht : isTransfer type = true)
    (callbackname filename name : Text) (got : Option Text) (binary : List UInt8) :
    runNamed (listener callbackname filename) (fileStep (listener callbackname filename) type)
        name got binary () =
      some ((if name = callbackname then (if got = some filename then ['1'] else ['0']) else [],
        []), ()) := by
  have hone : CString.formatInt 1 = ['1'] := by decide
  have hzero : CString.formatInt 0 = ['0'] := by decide
  rw [runNamed]
  by_cases hname : name = callbackname
  · subst hname
    have hfound : (listener name filename).fileinfoFuncMaps.find? (·.callbackname == name) =
        (listener name filename).fileinfoFuncMaps[0]? := by simp [listener]
    rw [hfound]
    cases type with
    | importFile =>
      by_cases hgot : got = some filename <;>
        simp [listener, fileStep, importStep, saveFile, hgot, hone, hzero]
    | exportFile =>
      by_cases hgot : got = some filename <;>
        simp [listener, fileStep, exportStep, fileContent, hgot, hone, hzero]
    | _ => cases ht
  · have hmiss : (listener callbackname filename).fileinfoFuncMaps.find?
        (·.callbackname == name) = none := by
      simp [listener, Ne.symm hname]
    rw [hmiss, if_neg hname]

theorem delivered_iff {req : DataInfoRequest} (ht : isTransfer req.type = true)
    {callbackname filename : Text} (hmsg : req.msg = callbackname ++ ';' :: filename)
    (hn : nul ∉ req.msg) :
    Delivered req callbackname filename ↔ Plain callbackname ∧ Plain filename := by
  rw [← pieces_names_iff, ← hmsg]
  constructor
  · intro hdelivered
    have hlisten := hdelivered Unit (listener callbackname filename) 0 ()
    rw [handle_eq _ ht hn, runNamed_listener ht, if_neg (by simp [listener])] at hlisten
    cases hname : (CString.pieces ';' req.msg)[0]? with
    | none => simp [hname] at hlisten
    | some name =>
      rw [hname, Option.bind_some, runNamed_listener ht] at hlisten
      by_cases heq : name = callbackname
      · by_cases hfile : (CString.pieces ';' req.msg)[1]? = some filename
        · exact ⟨by rw [heq], hfile⟩
        · simp [heq, hfile] at hlisten
      · simp [heq] at hlisten
  · rintro ⟨hname, hfile⟩ σ agent i w
    rw [handle_eq _ ht hn, hname, hfile, Option.bind_some]
    split
    · next hmap =>
      rw [runNamed, hmap]
      rfl
    · rfl

theorem entryPointers_named {type : DataInfoType} {name : Text} {filename : Option Text}
    {fs : List (FileinfoFunc σ)} :
    none ∉ entryPointers type (some name) filename fs ↔
      ∀ f, fs.find? (·.callbackname == name) = some f →
        f.path.isSome ∨ provides type f = true → filename ≠ none := by
  induction fs with
  | nil => simp [entryPointers]
  | cons f fs ih =>
    by_cases hname : f.callbackname = name
    · subst hname
      have hfound : (f :: fs).find? (·.callbackname == f.callbackname) = some f := by simp
      rw [entryPointers, if_pos rfl, hfound]
      cases filename <;> cases hp : f.path <;> cases hf : provides type f <;> simp [hp, hf]
    · have hskip : (f :: fs).find? (·.callbackname == name) =
          fs.find? (·.callbackname == name) := by simp [hname]
      have hne : some name ≠ some f.callbackname := by simpa using Ne.symm hname
      rw [entryPointers, if_neg hne, hskip, ← ih]
      simp

theorem entryPointers_iff {type : DataInfoType} {callbackname filename : Option Text}
    {fs : List (FileinfoFunc σ)} :
    none ∉ entryPointers type callbackname filename fs ↔
      fs = [] ∨ ∃ name, callbackname = some name ∧
        ∀ f, fs.find? (·.callbackname == name) = some f →
          f.path.isSome ∨ provides type f = true → filename ≠ none := by
  cases callbackname with
  | none =>
    cases fs with
    | nil => simp [entryPointers]
    | cons f fs => simp [entryPointers]
  | some name =>
    rw [entryPointers_named]
    constructor
    · exact fun h => Or.inr ⟨name, rfl, h⟩
    · rintro (rfl | ⟨name', hname, h⟩)
      · intro f hf
        cases hf
      · obtain rfl := Option.some.inj hname
        exact h

/-- No `NULL` is handed on if and only if there is nothing to compare with, or the message has a
first piece, and a second one if the entry of that name makes use of it. -/
theorem neverNull_iff (agent : Agent σ) (type : DataInfoType) {msg : Text} (hn : nul ∉ msg) :
    NeverNull agent type msg ↔
      agent.fileinfoFuncMaps = [] ∨ ∃ name, (CString.pieces ';' msg)[0]? = some name ∧
        ∀ f, agent.fileinfoFuncMaps.find? (·.callbackname == name) = some f →
          f.path.isSome ∨ provides type f = true → (CString.pieces ';' msg)[1]? ≠ none := by
  rw [← entryPointers_iff, NeverNull, pointers_eq agent type hn]
  constructor
  · rintro ⟨ptrs, heq, hptrs⟩
    exact Option.some.inj heq ▸ hptrs
  · exact fun h => ⟨_, rfl, h⟩

theorem fileStep_path_null {agent : Agent σ} {f : FileinfoFunc σ} {path : Text}
    (hpath : f.path = some path) {type : DataInfoType} (binary : List UInt8) (w : σ) :
    fileStep agent type f none binary w = none := by
  have hsave : saveFile agent f none binary w = none := by simp [saveFile, hpath, filepath]
  have hcontent : fileContent agent f none w = none := by simp [fileContent, hpath, filepath]
  cases type with
  | importFile => simp [fileStep, importStep, hsave]
  | _ => simp [fileStep, exportStep, hcontent]

/-- A request with a `NULL` that does not fault gives it to the function of an entry without a
path. -/
theorem handled_null {agent : Agent σ} {req : DataInfoRequest} (ht : isTransfer req.type = true)
    (hn : nul ∉ req.msg) {i : ℕ} {w : σ} (hhandled : handle agent req i w ≠ none)
    (hnull : ¬ NeverNull agent req.type req.msg) :
    ∃ f ∈ agent.fileinfoFuncMaps, f.path = none ∧ provides req.type f = true ∧
      handle agent req i w = (fileStep agent req.type f none req.binary w).map
        fun out => (some out.1, out.2) := by
  rw [neverNull_iff agent req.type hn, not_or] at hnull
  obtain ⟨hmap, hnull⟩ := hnull
  rw [handle_eq agent ht hn, if_neg hmap] at hhandled ⊢
  cases hname : (CString.pieces ';' req.msg)[0]? with
  | none => simp [hname] at hhandled
  | some name =>
    simp only [hname, Option.some.injEq, exists_eq_left', not_forall, not_not] at hnull
    obtain ⟨f, hf, huses, hfile⟩ := hnull
    simp only [hname, hfile, Option.bind_some, runNamed, hf] at hhandled ⊢
    refine ⟨f, List.mem_of_find?_eq_some hf, ?_, ?_, rfl⟩
    · cases hpath : f.path with
      | none => rfl
      | some path => simp [fileStep_path_null hpath] at hhandled
    · rcases huses with hpath | hprovides
      · obtain ⟨path, hpath⟩ := Option.isSome_iff_exists.mp hpath
        simp [fileStep_path_null hpath] at hhandled
      · exact hprovides

theorem nul_not_mem_joined {callbackname filename : Text} (hc : nul ∉ callbackname)
    (hf : nul ∉ filename) : nul ∉ callbackname ++ ';' :: filename := by
  simp only [List.mem_append, List.mem_cons, not_or]
  exact ⟨hc, by decide, hf⟩

theorem transferMessage_some {callbackname filename message : Text}
    (h : transferMessage callbackname filename = some message) :
    message = callbackname ++ ';' :: filename := by
  rw [transferMessage_eq] at h
  split at h
  · exact (Option.some.inj h).symm
  · cases h

end TransferNames
