import RmtLibrary.LexicalPath
import RmtLibrary.TransferNames

/-! # The files a request can reach

The path of a file is the directory of the entry and the file name of the request, joined by a
slash. Nothing is done about the components `..` of the name. -/
namespace FilePaths

open CString (Text nul)
open DatainfoAgent
open FileCalls
open Idl (DataInfoRequest)
open LexicalPath

variable {σ : Type}

/-- The message selects an entry with that directory. -/
def Enters (agent : Agent σ) (msg path : Text) : Prop :=
  ∃ f, selected agent msg = some f ∧ f.path = some path

theorem Enters.unique {agent : Agent σ} {msg path path' : Text} (h : Enters agent msg path)
    (h' : Enters agent msg path') : path = path' := by
  obtain ⟨f, hsel, hpath⟩ := h
  obtain ⟨f', hsel', hpath'⟩ := h'
  obtain rfl := Option.some.inj (hsel.symm.trans hsel')
  exact Option.some.inj (hpath.symm.trans hpath')

structure Opens (agent : Agent σ) (msg path filename : Text) : Prop where
  entry : Enters agent msg path
  name : (CString.pieces ';' msg)[1]? = some filename
  fits : (path ++ '/' :: filename).length < 1024

def withFile (agent : Agent σ) (path : Text) (write : List UInt8 → σ → Option σ)
    (read : σ → Option (List UInt8)) : Agent σ :=
  { agent with
    writeFile := Function.update agent.writeFile path write
    readFile := Function.update agent.readFile path read }

/-- What is written to the path or read from it makes a difference. -/
def Touches (agent : Agent σ) (req : DataInfoRequest) (path : Text) : Prop :=
  ∃ write read i w, handle (withFile agent path write read) req i w ≠ handle agent req i w

/-- The directory is not empty. The file name, resolved on its own, climbs over no more levels
than the directory has, unless that is absolute, and then goes down the same names again. -/
def StaysInside (path filename : Text) : Prop :=
  path ≠ [] ∧
    ((resolve path).absolute = true ∨
      (relative filename).ups ≤ (resolve path).names.length) ∧
    (resolve path).names.drop ((resolve path).names.length - (relative filename).ups) <+:
      (relative filename).names

instance (path filename : Text) : Decidable (StaysInside path filename) :=
  inferInstanceAs (Decidable (_ ∧ _))

theorem inside_iff (path filename : Text) :
    (resolve (path ++ '/' :: filename)).Inside (resolve path) ↔ StaysInside path filename := by
  by_cases hne : path = []
  · subst hne
    constructor
    · intro hinside
      exact absurd hinside.absolute (by simp [resolve_absolute])
    · exact fun hstays => absurd rfl hstays.1
  · rw [resolve_append hne, Place.walk_inside_iff, StaysInside, relative]
    simp [hne]

theorem fileStep_withFile (agent : Agent σ) (req : DataInfoRequest) {f : FileinfoFunc σ}
    {filename : Option Text} {path : Text}
    (hother : ∀ dir, f.path = some dir → filepath dir filename ≠ some path)
    (write : List UInt8 → σ → Option σ) (read : σ → Option (List UInt8)) (w : σ) :
    fileStep (withFile agent path write read) req.type f filename req.binary w =
      fileStep agent req.type f filename req.binary w := by
  have hsave : saveFile (withFile agent path write read) f filename req.binary w =
      saveFile agent f filename req.binary w := by
    cases hp : f.path with
    | none => simp [saveFile, hp]
    | some dir =>
      cases hfp : filepath dir filename with
      | none => simp [saveFile, hp, hfp]
      | some other =>
        have hne : other ≠ path := fun h => hother dir hp (h ▸ hfp)
        simp [saveFile, hp, hfp, withFile, Function.update_of_ne hne]
  have hcontent : fileContent (withFile agent path write read) f filename w =
      fileContent agent f filename w := by
    cases hp : f.path with
    | none => simp [fileContent, hp]
    | some dir =>
      cases hfp : filepath dir filename with
      | none => simp [fileContent, hp, hfp]
      | some other =>
        have hne : other ≠ path := fun h => hother dir hp (h ▸ hfp)
        simp [fileContent, hp, hfp, withFile, Function.update_of_ne hne]
  cases req.type with
  | importFile => simp only [fileStep, importStep, hsave]
  | _ => simp only [fileStep, exportStep, hcontent]

theorem filepath_some {dir path : Text} {filename : Option Text}
    (h : filepath dir filename = some path) :
    ∃ name, filename = some name ∧ (dir ++ '/' :: name).length < 1024 ∧
      path = dir ++ '/' :: name := by
  cases filename with
  | none => cases h
  | some name =>
    simp only [filepath, Option.bind_eq_bind, Option.bind_some, Option.ite_none_right_eq_some,
      Option.some.injEq] at h
    exact ⟨name, rfl, h.1, h.2.symm⟩

theorem handle_withFile {agent : Agent σ} {req : DataInfoRequest}
    (ht : isTransfer req.type = true) (hn : nul ∉ req.msg) {path : Text}
    (hother : ∀ dir filename, Opens agent req.msg dir filename → path ≠ dir ++ '/' :: filename)
    (write : List UInt8 → σ → Option σ) (read : σ → Option (List UInt8)) (i : ℕ) (w : σ) :
    handle (withFile agent path write read) req i w = handle agent req i w := by
  rw [TransferNames.handle_eq _ ht hn, TransferNames.handle_eq _ ht hn]
  change Option.map _ (if agent.fileinfoFuncMaps = [] then _ else _) = _
  by_cases hmap : agent.fileinfoFuncMaps = []
  · rw [if_pos hmap, if_pos hmap]
  · rw [if_neg hmap, if_neg hmap]
    cases hname : (CString.pieces ';' req.msg)[0]? with
    | none => rfl
    | some name =>
      simp only [Option.bind_some, runNamed, withFile]
      cases hf : agent.fileinfoFuncMaps.find? (·.callbackname == name) with
      | none => rfl
      | some f =>
        refine congrArg _ (fileStep_withFile agent req ?_ write read w)
        intro dir hdir hfp
        obtain ⟨filename, hfile, hfits, hpath⟩ := filepath_some hfp
        have hsel : selected agent req.msg = some f := by rw [selected, hname]; exact hf
        exact hother dir filename ⟨⟨f, hsel, hdir⟩, hfile, hfits⟩ hpath

theorem Opens.filepath_eq {agent : Agent σ} {msg dir filename : Text}
    (h : Opens agent msg dir filename) :
    filepath dir (some filename) = some (dir ++ '/' :: filename) := by
  simp only [filepath, Option.bind_eq_bind, Option.bind_some, if_pos h.fits]

theorem Opens.handle_eq {agent : Agent σ} {req : DataInfoRequest}
    (ht : isTransfer req.type = true) (hn : nul ∉ req.msg) {dir filename : Text}
    (hopens : Opens agent req.msg dir filename) :
    ∃ f, f.path = some dir ∧ ∀ write read i w,
      handle (withFile agent (dir ++ '/' :: filename) write read) req i w =
        (fileStep (withFile agent (dir ++ '/' :: filename) write read) req.type f (some filename)
          req.binary w).map fun out => (some out.1, out.2) := by
  obtain ⟨f, hsel, hdir⟩ := hopens.entry
  obtain ⟨name, hname, hf⟩ := Option.bind_eq_some_iff.mp hsel
  have hmap : agent.fileinfoFuncMaps ≠ [] := by
    intro hnil
    rw [hnil] at hf
    cases hf
  refine ⟨f, hdir, ?_⟩
  intro write read i w
  have hmap' : (withFile agent (dir ++ '/' :: filename) write read).fileinfoFuncMaps ≠ [] := hmap
  have hf' : (withFile agent (dir ++ '/' :: filename) write read).fileinfoFuncMaps.find?
      (·.callbackname == name) = some f := hf
  rw [TransferNames.handle_eq _ ht hn, hname, hopens.name, Option.bind_some, if_neg hmap',
    runNamed_found hf']

theorem withFile_self (agent : Agent σ) (path : Text) :
    withFile agent path (agent.writeFile path) (agent.readFile path) = agent := by
  simp [withFile]

theorem importStep_isSome (agent : Agent σ) (f : FileinfoFunc σ) (filename : Option Text)
    (binary : List UInt8) (w : σ) :
    (importStep agent f filename binary w).isSome =
      (saveFile agent f filename binary w).isSome := by
  simp only [importStep, Option.bind_eq_bind]
  cases saveFile agent f filename binary w with
  | none => rfl
  | some w => cases hf : f.importFunc <;> simp

/-- Whether a write to the path succeeds decides whether the import comes to an end. -/
theorem touches_import {agent : Agent σ} {req : DataInfoRequest} (ht : req.type = .importFile)
    (hn : nul ∉ req.msg) {dir filename : Text} (hopens : Opens agent req.msg dir filename)
    (w : σ) : Touches agent req (dir ++ '/' :: filename) := by
  obtain ⟨f, hdir, hrun⟩ := hopens.handle_eq (by rw [ht]; rfl) hn
  have hsome : ∀ write read, (handle (withFile agent (dir ++ '/' :: filename) write read)
      req 0 w).isSome = (write req.binary w).isSome := by
    intro write read
    rw [hrun, ht, Option.isSome_map, fileStep, importStep_isSome]
    simp [saveFile, hdir, hopens.filepath_eq, withFile]
  have hself := hsome (agent.writeFile (dir ++ '/' :: filename))
    (agent.readFile (dir ++ '/' :: filename))
  rw [withFile_self] at hself
  refine ⟨fun bytes w => if (agent.writeFile (dir ++ '/' :: filename) bytes w).isSome then none
    else some w, agent.readFile (dir ++ '/' :: filename), 0, w, ?_⟩
  intro hsame
  have hcontra := congrArg Option.isSome hsame
  rw [hsome, hself] at hcontra
  cases hw : (agent.writeFile (dir ++ '/' :: filename) req.binary w).isSome <;>
    simp [hw] at hcontra

theorem touches_export {agent : Agent σ} {req : DataInfoRequest} (ht : req.type = .exportFile)
    (hn : nul ∉ req.msg) {dir filename : Text} (hopens : Opens agent req.msg dir filename)
    (w : σ) : Touches agent req (dir ++ '/' :: filename) := by
  obtain ⟨f, hdir, hrun⟩ := hopens.handle_eq (by rw [ht]; rfl) hn
  have hbinary : ∀ write read, (handle (withFile agent (dir ++ '/' :: filename) write read)
      req 0 w).map (fun out => out.1.map Prod.snd) =
        some (some (exportBinary (read w))) := by
    intro write read
    have hcontent : fileContent (withFile agent (dir ++ '/' :: filename) write read) f
        (some filename) w = some (read w) := by
      simp [fileContent, hdir, hopens.filepath_eq, withFile]
    obtain ⟨text, w', hstep⟩ := exportStep_binary hcontent req.binary
    rw [hrun, ht]
    simp only [fileStep, hstep]
    rfl
  have hself := hbinary (agent.writeFile (dir ++ '/' :: filename))
    (agent.readFile (dir ++ '/' :: filename))
  rw [withFile_self] at hself
  refine ⟨agent.writeFile (dir ++ '/' :: filename), fun w =>
    if exportBinary (agent.readFile (dir ++ '/' :: filename) w) = [] then some [0] else none,
    0, w, ?_⟩
  intro hsame
  rw [← hsame, hbinary] at hself
  by_cases hempty : exportBinary (agent.readFile (dir ++ '/' :: filename) w) = []
  · rw [if_pos hempty, hempty] at hself
    cases hself
  · rw [if_neg hempty] at hself
    exact hempty (Option.some.inj (Option.some.inj hself)).symm

theorem touches_iff [Nonempty σ] {agent : Agent σ} {req : DataInfoRequest}
    (ht : isTransfer req.type = true) (hn : nul ∉ req.msg) (path : Text) :
    Touches agent req path ↔
      ∃ dir filename, Opens agent req.msg dir filename ∧ path = dir ++ '/' :: filename := by
  constructor
  · rintro ⟨write, read, i, w, hdiff⟩
    by_contra hnone
    apply hdiff
    apply handle_withFile ht hn
    intro dir filename hopens hpath
    exact hnone ⟨dir, filename, hopens, hpath⟩
  · rintro ⟨dir, filename, hopens, rfl⟩
    obtain ⟨w⟩ := ‹Nonempty σ›
    cases htype : req.type with
    | importFile => exact touches_import htype hn hopens w
    | exportFile => exact touches_export htype hn hopens w
    | _ =>
      rw [htype] at ht
      cases ht

theorem filepath_isSome_iff (dir : Text) (filename : Option Text) :
    (filepath dir filename).isSome ↔
      ∃ name, filename = some name ∧ (dir ++ '/' :: name).length < 1024 := by
  constructor
  · intro hsome
    obtain ⟨path, hpath⟩ := Option.isSome_iff_exists.mp hsome
    obtain ⟨name, hname, hfits, -⟩ := filepath_some hpath
    exact ⟨name, hname, hfits⟩
  · rintro ⟨name, rfl, hfits⟩
    simp only [filepath, Option.bind_eq_bind, Option.bind_some, if_pos hfits, Option.isSome_some]

/-- An import or export forms its path in the buffer, and every file that it opens lies in the
directory of the entry, if and only if the request has a file name that fits behind the directory
and stays inside. -/
theorem access_inside_iff [Nonempty σ] {agent : Agent σ} {req : DataInfoRequest}
    (ht : isTransfer req.type = true) (hn : nul ∉ req.msg) :
    (∀ dir, Enters agent req.msg dir →
      (filepath dir (CString.pieces ';' req.msg)[1]?).isSome ∧
        ∀ path, Touches agent req path → (resolve path).Inside (resolve dir)) ↔
    ∀ dir, Enters agent req.msg dir → ∃ filename,
      (CString.pieces ';' req.msg)[1]? = some filename ∧
        (dir ++ '/' :: filename).length < 1024 ∧ StaysInside dir filename := by
  constructor
  · intro hinside dir henters
    obtain ⟨hformed, htouched⟩ := hinside dir henters
    obtain ⟨filename, hname, hfits⟩ := (filepath_isSome_iff dir _).mp hformed
    refine ⟨filename, hname, hfits, ?_⟩
    rw [← inside_iff]
    exact htouched _ ((touches_iff ht hn _).mpr ⟨dir, filename, ⟨henters, hname, hfits⟩, rfl⟩)
  · intro hstays dir henters
    obtain ⟨filename, hname, hfits, hstay⟩ := hstays dir henters
    refine ⟨(filepath_isSome_iff dir _).mpr ⟨filename, hname, hfits⟩, ?_⟩
    intro path htouches
    obtain ⟨dir', filename', hopens, rfl⟩ := (touches_iff ht hn path).mp htouches
    obtain rfl := henters.unique hopens.entry
    obtain rfl := Option.some.inj (hname.symm.trans hopens.name)
    exact (inside_iff dir filename).mpr hstay

def keeper : Agent Unit :=
  { myid := 1
    datainfoFuncMaps := []
    fileinfoFuncMaps := [⟨['c'], some ['d'], none, none⟩]
    datainfoValSize := 100
    writeFile := fun _ _ w => some w
    readFile := fun _ _ => none }

def importOf (filename : Text) : DataInfoRequest :=
  ⟨[1], .importFile, 7, 'c' :: ';' :: filename, []⟩

theorem keeper_enters {filename : Text}
    (hpieces : CString.pieces ';' (importOf filename).msg = [['c'], filename]) {dir : Text} :
    Enters keeper (importOf filename).msg dir ↔ dir = ['d'] := by
  have hselected : selected keeper (importOf filename).msg = keeper.fileinfoFuncMaps[0]? := by
    rw [selected, hpieces]
    rfl
  rw [Enters, hselected]
  constructor
  · rintro ⟨f, hsel, hdir⟩
    cases hsel
    cases hdir
    rfl
  · rintro rfl
    exact ⟨_, rfl, rfl⟩

theorem access_inside_file : Enters keeper (importOf ['f']).msg ['d'] ∧
    ∀ path, Touches keeper (importOf ['f']) path → (resolve path).Inside (resolve ['d']) := by
  have hpieces : CString.pieces ';' (importOf ['f']).msg = [['c'], ['f']] := by decide
  have henters := (keeper_enters hpieces).mpr rfl
  refine ⟨henters, ((@access_inside_iff _ _ keeper (importOf ['f']) rfl (by decide)).mpr ?_ _
    henters).2⟩
  intro dir hdir
  obtain rfl := (keeper_enters hpieces).mp hdir
  exact ⟨['f'], by rw [hpieces]; rfl, by decide, by decide⟩

theorem request_leaves_directory :
    Enters keeper (importOf ['.', '.', '/', 'x']).msg ['d'] ∧
      Touches keeper (importOf ['.', '.', '/', 'x']) ['d', '/', '.', '.', '/', 'x'] ∧
      ¬ (resolve ['d', '/', '.', '.', '/', 'x']).Inside (resolve ['d']) := by
  have hpieces : CString.pieces ';' (importOf ['.', '.', '/', 'x']).msg =
      [['c'], ['.', '.', '/', 'x']] := by decide
  have henters := (keeper_enters hpieces).mpr rfl
  refine ⟨henters, ?_, ?_⟩
  · rw [touches_iff rfl (by decide)]
    exact ⟨['d'], ['.', '.', '/', 'x'], ⟨henters, by rw [hpieces]; rfl, by decide⟩, rfl⟩
  · intro hinside
    exact absurd ((inside_iff ['d'] ['.', '.', '/', 'x']).mp hinside) (by decide)

end FilePaths
