import RmtLibrary.AgentBlocks
import RmtLibrary.AgentReplies

/-! # The replies own their memory

Every block an agent allocates for a reply is freed exactly once, behind the send of the reply,
except the contents of an exported file, which are never freed. With the pointers followed, the
agent does what `DatainfoAgent` says on texts. -/
namespace ReplyOwnership

open AgentBlocks
open BlockHeap
open CString (Text Memory)
open DatainfoAgent (Agent FileinfoFunc queueSize foundIdx)
open DdsTransport (Sample runCallback taken)
open HeapChain (Address Malloc)
open Idl (DataInfoType DataInfoRequest DataInfoReply)
open RingQueue (Holds)

variable {σ : Type} {agent : Agent σ}
variable {before blocks : Blocks Block} {owners : List Address} {a : Address} {text : Text}

theorem readText_congr {blocks' : Blocks Block} (h : read a blocks' = read a blocks) :
    readText a blocks' = readText a blocks := by
  rw [readText, h, readText]

theorem readText_of_read (h : read a blocks = some (.text text)) :
    readText a blocks = some text := by
  rw [readText, h]
  rfl

theorem read_of_readText (h : readText a blocks = some text) :
    read a blocks = some (.text text) := by
  obtain ⟨b, hread, hb⟩ := Option.bind_eq_some_iff.mp h
  cases b with
  | text t =>
    obtain rfl := Option.some.inj hb
    exact hread
  | bytes bs => cases hb

/-- The block at `a` holds the text, and the blocks of the other owners are as they were. -/
structure Building (before : Blocks Block) (owners : List Address) (a : Address) (text : Text)
    (blocks : Blocks Block) : Prop where
  owns : Owns blocks (a :: owners)
  holds : readText a blocks = some text
  kept : ∀ c ∈ owners, read c blocks = read c before

theorem building_alloc (h : Owns before owners) (malloc : Malloc) :
    Building before owners (alloc malloc (.text []) before).1 []
      (alloc malloc (.text []) before).2 where
  owns := h.alloc malloc _
  holds := readText_of_read (read_alloc malloc _ before)
  kept c hc := read_alloc_of_mem malloc _ ((h.live c).mpr hc)

theorem Building.write (h : Building before owners a text blocks) (text' : Text) :
    ∃ blocks', BlockHeap.write a (.text text') blocks = some blocks' ∧
      Building before owners a text' blocks' := by
  obtain ⟨blocks', hwrite, howns, hread, hsame⟩ := h.owns.write List.mem_cons_self (.text text')
  refine ⟨blocks', hwrite, howns, readText_of_read hread, fun c hc => ?_⟩
  rw [hsame c, h.kept c hc]
  rintro rfl
  exact (List.nodup_cons.mp h.owns.nodup).1 hc

theorem Building.realloc (h : Building before owners a text blocks) (malloc : Malloc) :
    ∃ a' blocks', BlockHeap.realloc malloc a blocks = some (a', blocks') ∧
      Building before owners a' text blocks' := by
  obtain ⟨a', blocks', hmove, howns, hread, hsame⟩ :=
    h.owns.realloc malloc (read_of_readText h.holds)
  refine ⟨a', blocks', hmove, howns, readText_of_read hread, fun c hc => ?_⟩
  rw [hsame c hc, h.kept c hc]

theorem Building.release {value : Address}
    (h : Building before (value :: owners) a text blocks) :
    ∃ blocks', BlockHeap.release value blocks = some blocks' ∧
      Building before owners a text blocks' := by
  have hswap : Owns blocks (value :: a :: owners) := h.owns.perm (List.Perm.swap _ _ _)
  obtain ⟨blocks', hfree, howns, hsame⟩ := hswap.release
  obtain ⟨hvalue, -⟩ := List.nodup_cons.mp hswap.nodup
  refine ⟨blocks', hfree, howns, ?_, fun c hc => ?_⟩
  · have hne : a ≠ value := fun he => hvalue (he ▸ List.mem_cons_self)
    rw [readText_congr (hsame a hne)]
    exact h.holds
  · have hne : c ≠ value := fun he => hvalue (he ▸ List.mem_cons_of_mem a hc)
    rw [hsame c hne]
    exact h.kept c (List.mem_cons_of_mem value hc)

theorem Building.rebase {middle : Blocks Block} (h : Building middle owners a text blocks)
    (hkept : ∀ c ∈ owners, read c middle = read c before) :
    Building before owners a text blocks :=
  ⟨h.owns, h.holds, fun c hc => (h.kept c hc).trans (hkept c hc)⟩

theorem Building.scratch (h : Building before owners a text blocks) (malloc : Malloc)
    (written : Text) :
    ∃ blocks', BlockHeap.write (alloc malloc (.text []) blocks).1 (.text written)
        (alloc malloc (.text []) blocks).2 = some blocks' ∧
      Building blocks' ((alloc malloc (.text []) blocks).1 :: owners) a text blocks' ∧
      readText (alloc malloc (.text []) blocks).1 blocks' = some written ∧
      ∀ c ∈ owners, read c blocks' = read c before := by
  obtain ⟨blocks', hwrite, hbuild⟩ := (building_alloc h.owns malloc).write written
  refine ⟨blocks', hwrite, ⟨hbuild.owns.perm (List.Perm.swap _ _ _), ?_, fun _ _ => rfl⟩,
    hbuild.holds, fun c hc => ?_⟩
  · rw [readText_congr (hbuild.kept a List.mem_cons_self)]
    exact h.holds
  · rw [hbuild.kept c (List.mem_cons_of_mem a hc), h.kept c hc]

theorem growResult_spec (malloc : Malloc) {value : Address} {written keys : Text} {size : ℕ}
    (h : Building before (value :: owners) a text blocks)
    (hvalue : readText value blocks = some written) :
    ∃ a' blocks', growResult malloc size a keys value blocks = some
        (if size ≤ (text.length + keys.length + written.length + 2) % 2 ^ 32 then
          (text.length + keys.length + written.length + 2) % 2 ^ 32 * 2 % 2 ^ 32 else size,
          a', blocks') ∧
      Building before (value :: owners) a' text blocks' := by
  simp only [growResult, h.holds, hvalue, Option.bind_eq_bind, Option.bind_some]
  by_cases hgrow : size ≤ (text.length + keys.length + written.length + 2) % 2 ^ 32
  · obtain ⟨a', blocks', hmove, h'⟩ := h.realloc malloc
    exact ⟨a', blocks', by rw [if_pos hgrow, if_pos hgrow, hmove]; rfl, h'⟩
  · exact ⟨a, blocks, by rw [if_neg hgrow, if_neg hgrow], h⟩

theorem appendValue_some {keys value text' : Text} {size size' : ℕ}
    (h : DatainfoAgent.appendValue size text keys value = some (size', text')) :
    size' = (if size ≤ (text.length + keys.length + value.length + 2) % 2 ^ 32 then
        (text.length + keys.length + value.length + 2) % 2 ^ 32 * 2 % 2 ^ 32 else size) ∧
      text' = text ++ keys ++ ':' :: value ++ [';'] ∧ text'.length < size' := by
  simp only [DatainfoAgent.appendValue, Option.ite_none_right_eq_some, Option.some.injEq,
    Prod.mk.injEq] at h
  obtain ⟨hfits, rfl, rfl⟩ := h
  exact ⟨rfl, rfl, hfits⟩

theorem getStep_refines (malloc : Malloc) {m m' : Memory} {keys size size' : ℕ} {text' : Text}
    {w w' : σ}
    (h : Building before owners a text blocks)
    (hrun : DatainfoAgent.getStep agent m keys (size, text, w) = some (m', size', text', w')) :
    ∃ a' blocks', getStep malloc agent m keys (size, a, w, blocks) =
        some (m', size', a', w', blocks') ∧ Building before owners a' text' blocks' := by
  simp only [DatainfoAgent.getStep, Option.bind_eq_bind, Option.bind_eq_some_iff] at hrun
  obtain ⟨key, hkey, hrun⟩ := hrun
  cases hfind : agent.find key with
  | none =>
    simp only [hfind, Option.some.injEq, Prod.mk.injEq] at hrun
    obtain ⟨rfl, rfl, rfl, rfl⟩ := hrun
    exact ⟨a, blocks, by simp [getStep, hkey, hfind], h⟩
  | some f =>
    simp only [hfind, Option.bind_eq_some_iff, Option.some.injEq, Prod.mk.injEq] at hrun
    obtain ⟨⟨written, w₁⟩, hget, ⟨size₁, text₁⟩, happend, rfl, rfl, rfl, rfl⟩ := hrun
    obtain ⟨blocks₁, hwrite, h₁, hvalue, hkept⟩ := h.scratch malloc written
    obtain ⟨a₂, blocks₂, hgrow, h₂⟩ := @growResult_spec _ _ _ _ _ malloc _ _ key size h₁ hvalue
    have hvalue₂ : readText (alloc malloc (.text []) blocks).1 blocks₂ = some written :=
      (readText_congr (h₂.kept _ List.mem_cons_self)).trans hvalue
    obtain ⟨hsize, rfl, hfits⟩ := appendValue_some happend
    obtain ⟨blocks₃, hstore, h₃⟩ := h₂.write (text ++ key ++ ':' :: written ++ [';'])
    obtain ⟨blocks₄, hfree, h₄⟩ := h₃.release
    refine ⟨a₂, blocks₄, ?_, h₄.rebase hkept⟩
    rw [← hsize] at hgrow
    simp only [getStep, hkey, hfind, hget, hwrite, hgrow, appendValue, h₂.holds, hvalue₂,
      if_pos hfits, hstore, hfree, Option.bind_eq_bind, Option.bind_some]

theorem getBranch_refines (malloc : Malloc) {msg : Text} {w w' : σ} (h : Owns before owners)
    (hrun : DatainfoAgent.getBranch agent msg w = some (text, w')) :
    ∃ a blocks, getBranch malloc agent msg w before = some (a, w', blocks) ∧
      Building before owners a text blocks := by
  simp only [DatainfoAgent.getBranch, Option.bind_eq_bind, Option.bind_eq_some_iff,
    Option.some.injEq, Prod.mk.injEq] at hrun
  obtain ⟨⟨m, size, _, _⟩, hloop, rfl, rfl⟩ := hrun
  obtain ⟨⟨_, a, _, blocks⟩, hloop', rfl, rfl, hbuild⟩ := CString.tokenLoop_simulates
    (fun (b : ℕ × Address × σ × Blocks Block) (c : ℕ × Text × σ) =>
      b.1 = c.1 ∧ b.2.2.1 = c.2.2 ∧ Building before owners b.2.1 c.2.1 b.2.2.2)
    (by
      rintro m p ⟨_, a, _, blocks⟩ ⟨size, text, w⟩ m' ⟨size', text', w'⟩ ⟨rfl, rfl, hbuild⟩ hstep
      obtain ⟨a', blocks', hstep', hbuild'⟩ := getStep_refines malloc hbuild hstep
      exact ⟨(size', a', w', blocks'), hstep', rfl, rfl, hbuild'⟩) _
    (b := (1024, (alloc malloc (.text []) before).1, w, (alloc malloc (.text []) before).2))
    ⟨rfl, rfl, building_alloc h malloc⟩ hloop
  exact ⟨a, blocks, by simp only [getBranch, hloop', Option.bind_eq_bind, Option.bind_some], hbuild⟩

theorem setStep_refines {m m' : Memory} {pairs : ℕ} {text' : Text} {w w' : σ}
    (h : Building before owners a text blocks)
    (hrun : DatainfoAgent.setStep agent m pairs (text, w) = some (m', text', w')) :
    ∃ blocks', setStep agent m pairs (a, w, blocks) = some (m', a, w', blocks') ∧
      Building before owners a text' blocks' := by
  simp only [DatainfoAgent.setStep, Option.bind_eq_bind, Option.bind_eq_some_iff] at hrun
  obtain ⟨⟨m₁, key, s⟩, htok, p, rfl, name, hname, hrun⟩ := hrun
  cases hset : (agent.find name).bind DatainfoAgent.DatainfoFunc.setFunc with
  | none =>
    simp only [hset, Option.some.injEq, Prod.mk.injEq] at hrun
    obtain ⟨rfl, rfl, rfl⟩ := hrun
    exact ⟨blocks, by simp [setStep, htok, hname, hset], h⟩
  | some set =>
    simp only [hset, Option.bind_eq_some_iff, Option.some.injEq, Prod.mk.injEq] at hrun
    obtain ⟨value, hvalue, text₁, happend, rfl, rfl, rfl⟩ := hrun
    obtain ⟨blocks', hwrite, h'⟩ := h.write text₁
    refine ⟨blocks', ?_, h'⟩
    simp only [setStep, htok, hname, hset, hvalue, h.holds, happend, hwrite, Option.bind_eq_bind,
      Option.bind_some]

theorem setBranch_refines (malloc : Malloc) {type : DataInfoType} {msg : Text} {i : ℕ} {w w' : σ}
    (h : Owns before owners)
    (hrun : DatainfoAgent.setBranch agent type msg i w = some (text, w')) :
    ∃ a blocks, setBranch malloc agent type msg i w before = some (a, w', blocks) ∧
      Building before owners a text blocks := by
  simp only [DatainfoAgent.setBranch, Option.bind_eq_bind, Option.bind_eq_some_iff,
    Option.some.injEq, Prod.mk.injEq] at hrun
  obtain ⟨⟨m, pairs⟩, hpairs, ⟨m', _, _⟩, hloop, rfl, rfl⟩ := hrun
  obtain ⟨⟨a, _, blocks⟩, hloop', rfl, hbuild⟩ := CString.tokenLoop_simulates
    (fun (b : Address × σ × Blocks Block) (c : Text × σ) =>
      b.2.1 = c.2 ∧ Building before owners b.1 c.1 b.2.2)
    (by
      rintro m p ⟨a, _, blocks⟩ ⟨text, w⟩ m' ⟨text', w'⟩ ⟨rfl, hbuild⟩ hstep
      obtain ⟨blocks', hstep', hbuild'⟩ := setStep_refines hbuild hstep
      exact ⟨(a, w', blocks'), hstep', rfl, hbuild'⟩) _
    (b := ((alloc malloc (.text []) before).1, w, (alloc malloc (.text []) before).2))
    ⟨rfl, building_alloc h malloc⟩ hloop
  exact ⟨a, blocks,
    by simp only [setBranch, hpairs, hloop', Option.bind_eq_bind, Option.bind_some], hbuild⟩

def lookup (agent : Agent σ) (msg : Text) : Option (Option (FileinfoFunc σ × Option Text)) := do
  let (m, callbackname, s) ← CString.strtokR ';' (CString.ofText msg) 0
  let (m, filename, _) ← CString.strtokR ';' m s
  if agent.fileinfoFuncMaps.isEmpty then some none
  else
    let callbackname ← CString.cstr m (← callbackname)
    let filename ← DatainfoAgent.argText m filename
    some ((agent.fileinfoFuncMaps.find? (·.callbackname == callbackname)).map (·, filename))

def opened (agent : Agent σ) (req : DataInfoRequest) (w : σ) : Option (List UInt8) := do
  if req.type = .exportFile then
    let (f, filename) ← (lookup agent req.msg).join
    (DatainfoAgent.fileContent agent f filename w).join
  else none

/-- The file contents that the requests make the agent read, one request after the other. -/
def contentsRead (agent : Agent σ) : List DataInfoRequest → σ → List (List UInt8)
  | [], _ => []
  | req :: reqs, w =>
    match foundIdx agent req with
    | none => contentsRead agent reqs w
    | some i =>
      match DatainfoAgent.handle agent req i w with
      | none => []
      | some (_, w') => (opened agent req w).toList ++ contentsRead agent reqs w'

theorem fileBranch_text (run : FileinfoFunc σ → Option Text → List UInt8 → σ →
      Option ((Text × List UInt8) × σ)) (msg : Text) (binary : List UInt8) (w : σ) :
    DatainfoAgent.fileBranch agent run msg binary w = (lookup agent msg).bind fun
      | none => some (([], []), w)
      | some (f, filename) => run f filename binary w := by
  simp only [DatainfoAgent.fileBranch, lookup, Option.bind_eq_bind, Option.bind_assoc]
  apply Option.bind_congr
  intro r₁ _
  apply Option.bind_congr
  intro r₂ _
  split
  · rfl
  · simp only [Option.bind_assoc]
    apply Option.bind_congr
    intro callbackname _
    apply Option.bind_congr
    intro name _
    apply Option.bind_congr
    intro filename _
    cases agent.fileinfoFuncMaps.find? (·.callbackname == name) <;> rfl

theorem fileBranch_blocks (malloc : Malloc)
    (run : FileinfoFunc σ → Option Text → List UInt8 → Address → σ → Blocks Block →
      Option (Content × σ × Blocks Block)) (msg : Text) (binary : List UInt8)
    (w : σ) :
    fileBranch malloc agent run msg binary w before = (lookup agent msg).bind fun
      | none => some ((alloc malloc (.text []) before).1, ⟨none, 0⟩, w,
          (alloc malloc (.text []) before).2)
      | some (f, filename) =>
        (run f filename binary (alloc malloc (.text []) before).1 w
          (alloc malloc (.text []) before).2).map fun r =>
            ((alloc malloc (.text []) before).1, r) := by
  simp only [fileBranch, lookup, Option.bind_eq_bind, Option.bind_assoc]
  apply Option.bind_congr
  intro r₁ _
  apply Option.bind_congr
  intro r₂ _
  split
  · rfl
  · simp only [Option.bind_assoc]
    apply Option.bind_congr
    intro callbackname _
    apply Option.bind_congr
    intro name _
    apply Option.bind_congr
    intro filename _
    cases agent.fileinfoFuncMaps.find? (·.callbackname == name) with
    | none => rfl
    | some f => exact Option.map_eq_bind.symm

/-- What a branch leaves behind: its message, and the file it has read, beside the other
owners. -/
structure Answered (before : Blocks Block) (owners : List Address) (msg : Address)
    (content : Content) (text : Text) (binary : List UInt8) (file : Option (List UInt8))
    (blocks : Blocks Block) : Prop where
  owns : Owns blocks (msg :: (content.fileContent.toList ++ owners))
  text : readText msg blocks = some text
  binary : readBinary content.fileContent (content.fileSize % 2 ^ 32) blocks = some binary
  file : content.fileContent.map (read · blocks) = file.map fun bs => some (.bytes bs)
  kept : ∀ c ∈ owners, read c blocks = read c before

theorem Building.answered (h : Building before owners a text blocks) :
    Answered before owners a ⟨none, 0⟩ text [] none blocks :=
  ⟨h.owns, h.holds, rfl, rfl, h.kept⟩

theorem importStep_refines {f : FileinfoFunc σ} {filename : Option Text}
    {binary binary' : List UInt8} {text' : Text} {w w' : σ} (h : Building before owners a [] blocks)
    (hrun : DatainfoAgent.importStep agent f filename binary w = some ((text', binary'), w')) :
    ∃ content blocks', importStep agent f filename binary a w blocks =
        some (content, w', blocks') ∧
      Answered before owners a content text' binary' none blocks' := by
  simp only [DatainfoAgent.importStep, Option.bind_eq_bind, Option.bind_eq_some_iff] at hrun
  obtain ⟨w₁, hsave, hrun⟩ := hrun
  cases hfunc : f.importFunc with
  | none =>
    simp only [hfunc, Option.some.injEq, Prod.mk.injEq] at hrun
    obtain ⟨⟨rfl, rfl⟩, rfl⟩ := hrun
    exact ⟨⟨none, 0⟩, blocks, by simp [importStep, hsave, hfunc], h.answered⟩
  | some importFunc =>
    simp only [hfunc, Option.some.injEq, Prod.mk.injEq] at hrun
    obtain ⟨⟨rfl, rfl⟩, rfl⟩ := hrun
    obtain ⟨blocks', hwrite, h'⟩ := h.write (CString.formatInt
      (importFunc filename binary (BitVec.ofNat 32 binary.length) w₁).1.toInt)
    refine ⟨⟨none, 0⟩, blocks', ?_, h'.answered⟩
    simp only [importStep, hsave, hfunc, hwrite, Option.bind_eq_bind, Option.bind_some]

theorem allocFile_spec (malloc : Malloc) (h : Building before owners a text blocks)
    (content : Option (List UInt8)) :
    Answered before owners a
      ⟨(allocFile malloc content blocks).1, (content.getD []).length⟩ text
      ((content.getD []).take ((content.getD []).length % 2 ^ 32)) content
      (allocFile malloc content blocks).2 := by
  cases content with
  | none => exact h.answered
  | some bytes =>
    have howns := h.owns.alloc malloc (.bytes bytes)
    have hread := read_alloc malloc (.bytes bytes) blocks
    have hsame : ∀ c ∈ a :: owners, read c (alloc malloc (.bytes bytes) blocks).2 =
        read c blocks := fun c hc => read_alloc_of_mem malloc _ ((h.owns.live c).mpr hc)
    refine ⟨howns.perm (List.Perm.swap _ _ _), ?_, ?_, congrArg some hread, fun c hc => ?_⟩
    · exact (readText_congr (hsame a List.mem_cons_self)).trans h.holds
    · have hle : bytes.length % 2 ^ 32 ≤ bytes.length := Nat.mod_le _ _
      simp only [allocFile, readBinary, hread, Option.getD_some, if_pos hle]
    · exact (hsame c (List.mem_cons_of_mem a hc)).trans (h.kept c hc)

theorem readBinary_congr {blocks' : Blocks Block} {buffer : Option Address} {length : ℕ}
    (h : ∀ c, buffer = some c → read c blocks' = read c blocks) :
    readBinary buffer length blocks' = readBinary buffer length blocks := by
  cases buffer with
  | none => rfl
  | some c => simp only [readBinary, h c rfl]

theorem Answered.write {content : Content} {binary : List UInt8} {file : Option (List UInt8)}
    (h : Answered before owners a content text binary file blocks) (text' : Text) :
    ∃ blocks', BlockHeap.write a (.text text') blocks = some blocks' ∧
      Answered before owners a content text' binary file blocks' := by
  obtain ⟨blocks', hwrite, howns, hread, hsame⟩ := h.owns.write List.mem_cons_self (.text text')
  have hne : ∀ c ∈ content.fileContent.toList ++ owners, c ≠ a := by
    rintro c hc rfl
    exact (List.nodup_cons.mp h.owns.nodup).1 hc
  have hfile : ∀ c, content.fileContent = some c → read c blocks' = read c blocks := by
    intro c hc
    exact hsame c (hne c (List.mem_append_left _ (by simp [hc])))
  refine ⟨blocks', hwrite, howns, readText_of_read hread, ?_, ?_, fun c hc => ?_⟩
  · rw [readBinary_congr hfile]
    exact h.binary
  · rw [← h.file]
    cases hc : content.fileContent with
    | none => rfl
    | some c => simp only [Option.map_some, hfile c hc]
  · rw [hsame c (hne c (List.mem_append_right _ hc))]
    exact h.kept c hc

theorem exportStep_refines (malloc : Malloc) {f : FileinfoFunc σ} {filename : Option Text}
    {binary binary' : List UInt8} {text' : Text} {w w' : σ} (h : Building before owners a [] blocks)
    (hrun : DatainfoAgent.exportStep agent f filename binary w = some ((text', binary'), w')) :
    ∃ content blocks', exportStep malloc agent f filename binary a w blocks =
        some (content, w', blocks') ∧
      Answered before owners a content text' binary'
        (DatainfoAgent.fileContent agent f filename w).join blocks' := by
  simp only [DatainfoAgent.exportStep, Option.bind_eq_bind, Option.bind_eq_some_iff] at hrun
  obtain ⟨content, hcontent, hrun⟩ := hrun
  have hfile := allocFile_spec malloc h content
  rw [hcontent, Option.join_some]
  cases hfunc : f.exportFunc with
  | none =>
    simp only [hfunc, Option.some.injEq, Prod.mk.injEq] at hrun
    obtain ⟨⟨rfl, rfl⟩, rfl⟩ := hrun
    refine ⟨_, _, ?_, hfile⟩
    simp only [exportStep, hcontent, hfunc, Option.bind_eq_bind, Option.bind_some]
  | some exportFunc =>
    simp only [hfunc, Option.some.injEq, Prod.mk.injEq] at hrun
    obtain ⟨⟨rfl, rfl⟩, rfl⟩ := hrun
    obtain ⟨blocks', hwrite, h'⟩ := hfile.write (CString.formatInt
      (exportFunc filename content (BitVec.ofNat 32 (content.getD []).length) w).1.toInt)
    refine ⟨_, blocks', ?_, h'⟩
    simp only [exportStep, hcontent, hfunc, hwrite, Option.bind_eq_bind, Option.bind_some]

theorem fileBranch_refines (malloc : Malloc)
    {file : FileinfoFunc σ → Option Text → Option (List UInt8)}
    {run : FileinfoFunc σ → Option Text → List UInt8 → σ → Option ((Text × List UInt8) × σ)}
    {run' : FileinfoFunc σ → Option Text → List UInt8 → Address → σ → Blocks Block →
      Option (Content × σ × Blocks Block)} {msg : Text} {binary binary' : List UInt8} {w w' : σ}
    (h : Owns before owners)
    (hstep : ∀ f filename a blocks, Building before owners a [] blocks →
      run f filename binary w = some ((text, binary'), w') →
        ∃ content blocks', run' f filename binary a w blocks = some (content, w', blocks') ∧
          Answered before owners a content text binary' (file f filename) blocks')
    (hrun : DatainfoAgent.fileBranch agent run msg binary w = some ((text, binary'), w')) :
    ∃ a content blocks, fileBranch malloc agent run' msg binary w before =
        some (a, content, w', blocks) ∧
      Answered before owners a content text binary'
        ((lookup agent msg).join.bind fun (f, filename) => file f filename) blocks := by
  have hbuild := building_alloc h malloc
  rw [fileBranch_text] at hrun
  rw [fileBranch_blocks]
  obtain ⟨entry, hentry, hrun⟩ := Option.bind_eq_some_iff.mp hrun
  rw [hentry]
  cases entry with
  | none =>
    obtain ⟨⟨rfl, rfl⟩, rfl⟩ : (text = [] ∧ binary' = []) ∧ w' = w := by
      simpa [eq_comm] using hrun
    exact ⟨_, _, _, rfl, hbuild.answered⟩
  | some entry =>
    obtain ⟨content, blocks, hrun', hans⟩ := hstep entry.1 entry.2 _ _ hbuild hrun
    exact ⟨_, content, blocks, by simp only [Option.bind_some, hrun', Option.map_some], hans⟩

theorem handle_refines (malloc : Malloc) {req : DataInfoRequest} {i : ℕ} {w w' : σ}
    {r : Option (Text × List UInt8)} (h : Owns before owners)
    (hrun : DatainfoAgent.handle agent req i w = some (r, w')) :
    match r with
    | none => opened agent req w = none ∧
        handle malloc agent req i w before = some (none, w', before)
    | some (text, binary) => ∃ msg content blocks,
        handle malloc agent req i w before = some (some (msg, content), w', blocks) ∧
          Answered before owners msg content text binary (opened agent req w) blocks := by
  have hnone : req.type ≠ .exportFile → opened agent req w = none := fun hne => if_neg hne
  simp only [DatainfoAgent.handle] at hrun
  split at hrun
  case h_1 htype =>
    obtain ⟨⟨text, _⟩, hget, hpair⟩ := Option.map_eq_some_iff.mp hrun
    obtain ⟨rfl, rfl⟩ := Prod.mk.inj hpair
    obtain ⟨a, blocks, hget', hbuild⟩ := getBranch_refines malloc h hget
    refine ⟨a, ⟨none, 0⟩, blocks, by simp only [handle, htype, hget', Option.map_some], ?_⟩
    rw [hnone (by rw [htype]; nofun)]
    exact hbuild.answered
  case h_2 htype =>
    obtain ⟨⟨text, _⟩, hset, hpair⟩ := Option.map_eq_some_iff.mp hrun
    obtain ⟨rfl, rfl⟩ := Prod.mk.inj hpair
    obtain ⟨a, blocks, hset', hbuild⟩ := setBranch_refines malloc h hset
    refine ⟨a, ⟨none, 0⟩, blocks, by simp only [handle, htype, hset', Option.map_some], ?_⟩
    rw [hnone (by rw [htype]; nofun)]
    exact hbuild.answered
  case h_3 htype =>
    obtain ⟨⟨text, _⟩, hset, hpair⟩ := Option.map_eq_some_iff.mp hrun
    obtain ⟨rfl, rfl⟩ := Prod.mk.inj hpair
    obtain ⟨a, blocks, hset', hbuild⟩ := setBranch_refines malloc h hset
    refine ⟨a, ⟨none, 0⟩, blocks, by simp only [handle, htype, hset', Option.map_some], ?_⟩
    rw [hnone (by rw [htype]; nofun)]
    exact hbuild.answered
  case h_4 htype =>
    obtain ⟨⟨⟨text, binary⟩, _⟩, himport, hpair⟩ := Option.map_eq_some_iff.mp hrun
    obtain ⟨rfl, rfl⟩ := Prod.mk.inj hpair
    obtain ⟨a, content, blocks, himport', hans⟩ := fileBranch_refines malloc h
      (fun f filename a blocks hbuild hstep => importStep_refines hbuild hstep) himport
    refine ⟨a, content, blocks, by simp only [handle, htype, himport', Option.map_some], ?_⟩
    rw [hnone (by rw [htype]; nofun)]
    cases hjoin : (lookup agent req.msg).join with
    | none => simpa [hjoin] using hans
    | some entry => simpa [hjoin] using hans
  case h_5 htype =>
    obtain ⟨⟨⟨text, binary⟩, _⟩, hexport, hpair⟩ := Option.map_eq_some_iff.mp hrun
    obtain ⟨rfl, rfl⟩ := Prod.mk.inj hpair
    obtain ⟨a, content, blocks, hexport', hans⟩ := fileBranch_refines malloc h
      (fun f filename a blocks hbuild hstep => exportStep_refines malloc hbuild hstep) hexport
    refine ⟨a, content, blocks, by simp only [handle, htype, hexport', Option.map_some], ?_⟩
    rw [opened, if_pos htype]
    exact hans
  case h_6 htype =>
    obtain ⟨rfl, rfl⟩ := Prod.mk.inj (Option.some.inj hrun)
    exact ⟨hnone (by rw [htype]; nofun), by simp only [handle, htype]⟩

structure ShowsSlot (blocks : Blocks Block) (slot : ReplySlot)
    (shown : DatainfoAgent.ReplySlot) : Prop where
  deviceID : slot.deviceID = shown.deviceID
  type : slot.type = shown.type
  randomSeq : slot.randomSeq = shown.randomSeq
  msg : slot.msg.map (readText · blocks) = shown.msg.map some
  binary : readBinary slot.buffer slot.length blocks = some shown.binary

/-- The pointers, followed, are the state of `DatainfoAgent`. -/
structure Shows (s : AgentState σ) (t : DatainfoAgent.AgentState σ) : Prop where
  queue : s.queue = t.queue
  world : s.world = t.world
  slots : ∀ i, ShowsSlot s.blocks (s.datainfoReplys i) (t.datainfoReplys i)

def messages (s : AgentState σ) (is : List ℕ) : List Address :=
  is.filterMap fun i => (s.datainfoReplys i).msg

/-- Only the slots `is` have a message, and the live blocks are these messages and `files`. -/
structure Accounts (s : AgentState σ) (is : List ℕ) (files : List Address) : Prop where
  ring : Holds queueSize s.queue is
  clear : ∀ i, i ∉ is → (s.datainfoReplys i).msg = none
  owns : Owns s.blocks (messages s is ++ files)
  buffers : ∀ i a, (s.datainfoReplys i).buffer = some a → a ∈ files

def Keeps (s : AgentState σ) (files : List Address) (contents : List (List UInt8)) : Prop :=
  files.map (read · s.blocks) = contents.map fun bs => some (.bytes bs)

theorem accounts_init (w : σ) : Accounts (datainfoAgentInit w) [] [] where
  ring := RingQueue.holds_empty (by decide)
  clear _ _ := rfl
  owns := owns_empty
  buffers := nofun

theorem shows_init (w : σ) : Shows (datainfoAgentInit w) (DatainfoAgent.datainfoAgentInit w) where
  queue := rfl
  world := rfl
  slots _ := ⟨rfl, rfl, rfl, rfl, rfl⟩

theorem ShowsSlot.kept {slot : ReplySlot} {shown : DatainfoAgent.ReplySlot}
    {blocks' : Blocks Block} (h : ShowsSlot blocks slot shown)
    (hmsg : ∀ a, slot.msg = some a → read a blocks' = read a blocks)
    (hbuffer : ∀ a, slot.buffer = some a → read a blocks' = read a blocks) :
    ShowsSlot blocks' slot shown := by
  refine ⟨h.deviceID, h.type, h.randomSeq, ?_, ?_⟩
  · rw [← h.msg]
    cases hm : slot.msg with
    | none => rfl
    | some a => simp only [Option.map_some, readText_congr (hmsg a hm)]
  · rw [readBinary_congr hbuffer]
    exact h.binary

theorem Accounts.mem_msg {s : AgentState σ} {is : List ℕ} {files : List Address}
    (h : Accounts s is files) {i : ℕ} {a : Address} (hmsg : (s.datainfoReplys i).msg = some a) :
    i ∈ is ∧ a ∈ messages s is := by
  have hi : i ∈ is := by
    by_contra hnot
    rw [h.clear i hnot] at hmsg
    cases hmsg
  exact ⟨hi, List.mem_filterMap.mpr ⟨i, hi, hmsg⟩⟩

/-- The agent and what it shows, the slots with a message, and the files it has read so far. -/
structure Linked (s : AgentState σ) (t : DatainfoAgent.AgentState σ) (is : List ℕ)
    (files : List Address) (contents : List (List UInt8)) : Prop where
  accounts : Accounts s is files
  shows : Shows s t
  keeps : Keeps s files contents

variable {s : AgentState σ} {t : DatainfoAgent.AgentState σ} {is : List ℕ} {files : List Address}
variable {contents : List (List UInt8)}

theorem messages_append (s : AgentState σ) (is : List ℕ) (j : ℕ) :
    messages s (is ++ [j]) = messages s is ++ (s.datainfoReplys j).msg.toList := by
  rw [messages, List.filterMap_append, messages]
  cases hmsg : (s.datainfoReplys j).msg <;> simp [hmsg]

/-- A request of a wrong type takes a slot and leaves it without a message. -/
theorem Linked.skip (h : Linked s t is files contents) {queue : RingQueue.Ring} {j : ℕ}
    (hring : Holds queueSize queue (is ++ [j])) (hnew : j ∉ is) (w : σ) :
    Linked { s with queue, world := w } { t with queue, world := w } (is ++ [j]) files
      contents := by
  have hmessages : messages { s with queue, world := w } (is ++ [j]) = messages s is := by
    rw [messages_append]
    change messages s is ++ (s.datainfoReplys j).msg.toList = _
    rw [h.accounts.clear j hnew, Option.toList_none, List.append_nil]
  refine ⟨⟨hring, fun k hk => h.accounts.clear k ?_, ?_, h.accounts.buffers⟩,
    ⟨rfl, rfl, h.shows.slots⟩, h.keeps⟩
  · exact fun hmem => hk (List.mem_append_left _ hmem)
  · rw [hmessages]
    exact h.accounts.owns

theorem Linked.store (h : Linked s t is files contents) {queue : RingQueue.Ring} {j : ℕ}
    (hring : Holds queueSize queue (is ++ [j])) (hnew : j ∉ is) {content : Content}
    {binary : List UInt8} {file : Option (List UInt8)}
    (hans : Answered s.blocks (messages s is ++ files) a content text binary file blocks)
    (w : σ) (id : ℕ) (type : DataInfoType) (randomSeq : ℕ) :
    Linked
      ⟨Function.update s.datainfoReplys j ⟨id, type, randomSeq, some a, content.fileContent,
        content.fileSize % 2 ^ 32⟩, queue, w, blocks⟩
      ⟨Function.update t.datainfoReplys j ⟨id, type, randomSeq, some text, binary⟩, queue, w⟩
      (is ++ [j]) (files ++ content.fileContent.toList) (contents ++ file.toList) := by
  have hmessages : messages
      (⟨Function.update s.datainfoReplys j ⟨id, type, randomSeq, some a, content.fileContent,
        content.fileSize % 2 ^ 32⟩, queue, w, blocks⟩ : AgentState σ) (is ++ [j]) =
      messages s is ++ [a] := by
    rw [messages_append]
    simp only [Function.update_self, Option.toList_some, messages]
    congr 1
    apply List.filterMap_congr
    intro k hk
    have hne : k ≠ j := fun he => hnew (he ▸ hk)
    rw [Function.update_of_ne hne]
  constructor
  · refine ⟨hring, fun k hk => ?_, ?_, fun k c hc => ?_⟩
    · obtain ⟨hold, hne⟩ : k ∉ is ∧ k ≠ j := by simpa using hk
      simp only [Function.update_of_ne hne]
      exact h.accounts.clear k hold
    · rw [hmessages]
      refine hans.owns.perm (List.perm_iff_count.mpr fun c => ?_)
      simp only [List.count_cons, List.count_append, List.count_nil]
      omega
    · by_cases hk : k = j
      · subst hk
        simp only [Function.update_self] at hc
        exact List.mem_append_right _ (by simp [hc])
      · simp only [Function.update_of_ne hk] at hc
        exact List.mem_append_left _ (h.accounts.buffers k c hc)
  · refine ⟨rfl, rfl, fun k => ?_⟩
    by_cases hk : k = j
    · subst hk
      simp only [Function.update_self]
      exact ⟨rfl, rfl, rfl, congrArg some hans.text, hans.binary⟩
    · simp only [Function.update_of_ne hk]
      refine (h.shows.slots k).kept (fun c hc => ?_) fun c hc => ?_
      · exact hans.kept c (List.mem_append_left _ (h.accounts.mem_msg hc).2)
      · exact hans.kept c (List.mem_append_right _ (h.accounts.buffers k c hc))
  · have hold : files.map (read · blocks) = files.map (read · s.blocks) := by
      apply List.map_congr_left
      intro c hc
      exact hans.kept c (List.mem_append_right _ hc)
    have hfile : content.fileContent.toList.map (read · blocks) =
        file.toList.map fun bs => some (.bytes bs) := by
      have hmap := congrArg Option.toList hans.file
      rwa [Option.toList_map, Option.toList_map] at hmap
    rw [Keeps, List.map_append, List.map_append, hold, hfile, h.keeps]

theorem Linked.enqueue (h : Linked s t is files contents) (hroom : is.length + 1 < queueSize) :
    ∃ queue, ∃ j : ℕ, qEnqueue s = ({ s with queue }, (j : ℤ)) ∧
      DatainfoAgent.qEnqueue t = ({ t with queue }, (j : ℤ)) ∧ j < queueSize ∧ j ∉ is ∧
        Holds queueSize queue (is ++ [j]) := by
  obtain ⟨queue, j, hq, hj, hnew, -, hring⟩ := h.accounts.ring.enqueue_next hroom
  refine ⟨queue, j, ?_, ?_, hj, hnew, hring⟩
  · simp [qEnqueue, hq, DatainfoAgent.intIndex]
  · simp [DatainfoAgent.qEnqueue, ← h.shows.queue, hq, DatainfoAgent.intIndex]

theorem Linked.enqueue_full (h : Linked s t is files contents)
    (hfull : is.length + 1 = queueSize) :
    qEnqueue s = (s, -1) ∧ DatainfoAgent.qEnqueue t = (t, -1) := by
  have hq := h.accounts.ring.enqueue_full hfull
  constructor
  · simp [qEnqueue, hq, DatainfoAgent.intIndex]
  · rw [h.shows.queue] at hq
    simp [DatainfoAgent.qEnqueue, hq, DatainfoAgent.intIndex]

theorem recvRequest_refines (malloc : Malloc) (h : Linked s t is files contents)
    {req : DataInfoRequest} {t' : DatainfoAgent.AgentState σ} {r : ℤ}
    (hrun : DatainfoAgent.recvRequest agent req t = some (t', r)) :
    ∃ s' is' files', recvRequest malloc agent req s = some (s', r) ∧
      Linked s' t' is' files' (contents ++ contentsRead agent [req] t.world) := by
  simp only [contentsRead]
  cases hi : foundIdx agent req with
  | none =>
    simp only [DatainfoAgent.recvRequest, hi, Option.some.injEq, Prod.mk.injEq] at hrun
    obtain ⟨rfl, rfl⟩ := hrun
    rw [List.append_nil]
    exact ⟨s, is, files, by simp only [recvRequest, hi], h⟩
  | some i =>
    simp only [List.append_nil]
    have hfits := h.accounts.ring.fits
    by_cases hroom : is.length + 1 < queueSize
    · obtain ⟨queue, j, henq, henq', hj, hnew, hring⟩ := h.enqueue hroom
      have hbound : (0 : ℤ) ≤ j ∧ (j : ℤ) < queueSize := by omega
      simp only [DatainfoAgent.recvRequest, hi, henq', Option.bind_eq_bind,
        Option.bind_eq_some_iff] at hrun
      obtain ⟨⟨result, w⟩, hhandle, hrun⟩ := hrun
      rw [← h.shows.world] at hhandle ⊢
      have hblock := handle_refines malloc h.accounts.owns hhandle
      cases result with
      | none =>
        obtain ⟨hopened, hhandle'⟩ := hblock
        obtain ⟨rfl, rfl⟩ := Prod.mk.inj (Option.some.inj hrun)
        refine ⟨{ s with queue, world := w }, is ++ [j], files, by
          simp only [recvRequest, hi, henq, hhandle', Option.bind_eq_bind, Option.bind_some],
          ?_⟩
        simp only [hhandle, hopened, Option.toList_none, List.append_nil]
        exact h.skip hring hnew w
      | some reply =>
        obtain ⟨msg, content, blocks, hhandle', hans⟩ := hblock
        simp only [DatainfoAgent.storeReply, if_pos hbound, Option.bind_some, Option.some.injEq,
          Prod.mk.injEq] at hrun
        obtain ⟨rfl, rfl⟩ := hrun
        refine ⟨_, is ++ [j], files ++ content.fileContent.toList, by
          simp only [recvRequest, hi, henq, hhandle', storeReply, if_pos hbound,
            Option.bind_eq_bind, Option.bind_some]
          rfl, ?_⟩
        simp only [hhandle]
        exact h.store hring hnew hans w agent.myid req.type req.randomSeq
    · obtain ⟨henq, henq'⟩ := h.enqueue_full (by omega)
      simp only [DatainfoAgent.recvRequest, hi, henq', Option.bind_eq_bind,
        Option.bind_eq_some_iff] at hrun
      obtain ⟨⟨result, w⟩, hhandle, hrun⟩ := hrun
      rw [← h.shows.world] at hhandle ⊢
      have hblock := handle_refines malloc h.accounts.owns hhandle
      cases result with
      | none =>
        obtain ⟨hopened, hhandle'⟩ := hblock
        obtain ⟨rfl, rfl⟩ := Prod.mk.inj (Option.some.inj hrun)
        refine ⟨{ s with world := w }, is, files, by
          simp only [recvRequest, hi, henq, hhandle', Option.bind_eq_bind, Option.bind_some],
          ?_⟩
        simp only [hhandle, hopened, Option.toList_none, List.append_nil]
        exact ⟨⟨h.accounts.ring, h.accounts.clear, h.accounts.owns, h.accounts.buffers⟩,
          ⟨h.shows.queue, rfl, h.shows.slots⟩, h.keeps⟩
      | some reply =>
        simp [DatainfoAgent.storeReply] at hrun

theorem contentsRead_cons (req : DataInfoRequest) (reqs : List DataInfoRequest)
    {t' : DatainfoAgent.AgentState σ} {r : ℤ}
    (hrun : DatainfoAgent.recvRequest agent req t = some (t', r)) :
    contentsRead agent (req :: reqs) t.world =
      contentsRead agent [req] t.world ++ contentsRead agent reqs t'.world := by
  simp only [contentsRead]
  cases hi : foundIdx agent req with
  | none =>
    simp only [DatainfoAgent.recvRequest, hi, Option.some.injEq, Prod.mk.injEq] at hrun
    obtain ⟨rfl, rfl⟩ := hrun
    rfl
  | some i =>
    simp only [DatainfoAgent.recvRequest, hi, Option.bind_eq_bind,
      Option.bind_eq_some_iff] at hrun
    obtain ⟨⟨result, w⟩, hhandle, hrun⟩ := hrun
    have hhandle' : DatainfoAgent.handle agent req i t.world = some (result, w) := hhandle
    have hworld : t'.world = w := by
      cases result with
      | none =>
        obtain ⟨rfl, -⟩ := Prod.mk.inj (Option.some.inj hrun)
        rfl
      | some reply =>
        simp only [DatainfoAgent.storeReply, Option.bind_eq_some_iff,
          Option.ite_none_right_eq_some] at hrun
        obtain ⟨t₁, ⟨-, hstored⟩, hrun⟩ := hrun
        obtain rfl := Option.some.inj hstored
        obtain ⟨rfl, -⟩ := Prod.mk.inj (Option.some.inj hrun)
        rfl
    simp only [hhandle', hworld, List.append_nil]

theorem receive_refines (malloc : Malloc) (reqs : List DataInfoRequest)
    {t' : DatainfoAgent.AgentState σ} (h : Linked s t is files contents)
    (hrun : runCallback (DatainfoAgent.recvRequest agent) t reqs = some t') :
    ∃ s' is' files', runCallback (recvRequest malloc agent) s reqs = some s' ∧
      Linked s' t' is' files' (contents ++ contentsRead agent reqs t.world) := by
  induction reqs generalizing s t is files contents with
  | nil =>
    obtain rfl := Option.some.inj hrun
    exact ⟨s, is, files, rfl, by simpa [contentsRead] using h⟩
  | cons req reqs ih =>
    rw [DdsTransport.runCallback_cons] at hrun
    obtain ⟨⟨t₁, r⟩, hrecv, hrun⟩ := Option.bind_eq_some_iff.mp hrun
    obtain ⟨s₁, is₁, files₁, hrecv', h₁⟩ := recvRequest_refines malloc h hrecv
    obtain ⟨s', is', files', hrun', h'⟩ := ih h₁ hrun
    refine ⟨s', is', files', ?_, ?_⟩
    · rw [DdsTransport.runCallback_cons, hrecv', Option.bind_some]
      exact hrun'
    · rw [contentsRead_cons req reqs hrecv, ← List.append_assoc]
      exact h'

theorem Linked.dequeue {i : ℕ} (h : Linked s t (i :: is) files contents) :
    ∃ queue, qDequeue s = ({ s with queue }, (i : ℤ)) ∧
      DatainfoAgent.qDequeue t = ({ t with queue }, (i : ℤ)) ∧ i < queueSize ∧ i ∉ is ∧
        Holds queueSize queue is := by
  obtain ⟨queue, hq, hring⟩ := h.accounts.ring.dequeue_next
  refine ⟨queue, ?_, ?_, h.accounts.ring.lt List.mem_cons_self,
    (List.nodup_cons.mp h.accounts.ring.nodup).1, hring⟩
  · simp [qDequeue, hq, DatainfoAgent.intIndex]
  · simp [DatainfoAgent.qDequeue, ← h.shows.queue, hq, DatainfoAgent.intIndex]

theorem Linked.pass {i : ℕ} (h : Linked s t (i :: is) files contents) {queue : RingQueue.Ring}
    (hring : Holds queueSize queue is) (hmsg : (s.datainfoReplys i).msg = none) :
    Linked { s with queue } { t with queue } is files contents := by
  refine ⟨⟨hring, fun k hk => ?_, ?_, h.accounts.buffers⟩,
    ⟨rfl, h.shows.world, h.shows.slots⟩, h.keeps⟩
  · by_cases he : k = i
    · rw [he]
      exact hmsg
    · exact h.accounts.clear k (by simp [he, hk])
  · have howns := h.accounts.owns
    rw [messages, List.filterMap_cons, hmsg] at howns
    exact howns

theorem Linked.send {i : ℕ} (h : Linked s t (i :: is) files contents) {queue : RingQueue.Ring}
    (hring : Holds queueSize queue is) (hnew : i ∉ is)
    (hmsg : (s.datainfoReplys i).msg = some a) :
    ∃ blocks, release a s.blocks = some blocks ∧
      Linked
        ⟨Function.update s.datainfoReplys i { s.datainfoReplys i with msg := none }, queue,
          s.world, blocks⟩
        ⟨Function.update t.datainfoReplys i { t.datainfoReplys i with msg := none }, queue,
          t.world⟩ is files contents := by
  have howns := h.accounts.owns
  rw [messages, List.filterMap_cons, hmsg, List.cons_append] at howns
  obtain ⟨blocks, hfree, howns', hsame⟩ := howns.release
  have hne : ∀ c ∈ messages s is ++ files, read c blocks = read c s.blocks := by
    intro c hc
    apply hsame
    rintro rfl
    exact (List.nodup_cons.mp howns.nodup).1 hc
  have hmessages : messages (⟨Function.update s.datainfoReplys i
      { s.datainfoReplys i with msg := none }, queue, s.world, blocks⟩ : AgentState σ) is =
      messages s is := by
    apply List.filterMap_congr
    intro k hk
    have hne : k ≠ i := fun he => hnew (he ▸ hk)
    simp only [Function.update_of_ne hne]
  refine ⟨blocks, hfree, ⟨hring, fun k hk => ?_, ?_, fun k c hc => ?_⟩,
    ⟨rfl, h.shows.world, fun k => ?_⟩, ?_⟩
  · by_cases he : k = i
    · subst he
      simp only [Function.update_self]
    · simp only [Function.update_of_ne he]
      exact h.accounts.clear k (by simp [he, hk])
  · rw [hmessages]
    exact howns'
  · by_cases he : k = i
    · subst he
      simp only [Function.update_self] at hc
      exact h.accounts.buffers k c hc
    · simp only [Function.update_of_ne he] at hc
      exact h.accounts.buffers k c hc
  · have hbuffer : ∀ c, (s.datainfoReplys k).buffer = some c → read c blocks = read c s.blocks :=
      fun c hc => hne c (List.mem_append_right _ (h.accounts.buffers k c hc))
    have hslot := h.shows.slots k
    by_cases he : k = i
    · subst he
      simp only [Function.update_self]
      refine ⟨hslot.deviceID, hslot.type, hslot.randomSeq, rfl, ?_⟩
      exact (readBinary_congr hbuffer).trans hslot.binary
    · simp only [Function.update_of_ne he]
      refine hslot.kept (fun c hc => ?_) hbuffer
      obtain ⟨hk, -⟩ := h.accounts.mem_msg hc
      have hk' : k ∈ is := (List.mem_cons.mp hk).resolve_left he
      exact hne c (List.mem_append_left _ (List.mem_filterMap.mpr ⟨k, hk', hc⟩))
  · rw [Keeps, ← h.keeps]
    apply List.map_congr_left
    intro c hc
    exact hne c (List.mem_append_right _ hc)

theorem sendData_refines {fuel : ℕ} {t' : DatainfoAgent.AgentState σ}
    {sent : List DataInfoReply} (h : Linked s t is files contents)
    (hrun : DatainfoAgent.datainfoAgentSendData fuel t = some (t', sent)) :
    ∃ s', datainfoAgentSendData fuel s = some (s', sent) ∧ Linked s' t' [] files contents := by
  induction fuel generalizing s t is sent with
  | zero => cases hrun
  | succ fuel ih =>
    cases is with
    | nil =>
      have hq := h.accounts.ring.dequeue_empty
      have hdeq : qDequeue s = (s, -1) := by simp [qDequeue, hq, DatainfoAgent.intIndex]
      rw [h.shows.queue] at hq
      have hdeq' : DatainfoAgent.qDequeue t = (t, -1) := by
        simp [DatainfoAgent.qDequeue, hq, DatainfoAgent.intIndex]
      simp only [DatainfoAgent.datainfoAgentSendData, hdeq', if_true, Option.some.injEq,
        Prod.mk.injEq] at hrun
      obtain ⟨rfl, rfl⟩ := hrun
      exact ⟨s, by simp only [datainfoAgentSendData, hdeq, if_true], h⟩
    | cons i is =>
      obtain ⟨queue, hdeq, hdeq', hlt, hnew, hring⟩ := h.dequeue
      have hbound : (0 : ℤ) ≤ i ∧ (i : ℤ) < queueSize := by omega
      have hidx : ¬ ((i : ℤ) = -1) := by omega
      have hslot := h.shows.slots i
      simp only [DatainfoAgent.datainfoAgentSendData, hdeq', if_neg hidx,
        DatainfoAgent.loadReply, if_pos hbound, Option.bind_eq_bind, Option.bind_some,
        Int.toNat_natCast] at hrun
      simp only [datainfoAgentSendData, hdeq, if_neg hidx, loadReply, if_pos hbound,
        Option.bind_eq_bind, Option.bind_some, Int.toNat_natCast]
      cases hmsg : (s.datainfoReplys i).msg with
      | none =>
        have hmsg' : (t.datainfoReplys i).msg = none := by
          have hshown := hslot.msg
          rw [hmsg] at hshown
          simpa [eq_comm] using hshown
        rw [hmsg'] at hrun
        exact ih (h.pass hring hmsg) hrun
      | some a =>
        obtain ⟨text, hmsg', htext⟩ : ∃ text, (t.datainfoReplys i).msg = some text ∧
            readText a s.blocks = some text := by
          have hshown := hslot.msg
          rw [hmsg] at hshown
          cases hm : (t.datainfoReplys i).msg with
          | none => simp [hm] at hshown
          | some text => exact ⟨text, rfl, by simpa [hm] using hshown⟩
        obtain ⟨blocks, hfree, h₁⟩ := h.send hring hnew hmsg
        simp only [hmsg', DatainfoAgent.storeReply, if_pos hbound, Option.bind_some,
          Option.bind_eq_some_iff, Int.toNat_natCast, Option.some.injEq, Prod.mk.injEq] at hrun
        obtain ⟨⟨t₁, sent₁⟩, hrest, rfl, rfl⟩ := hrun
        obtain ⟨s', hrest', h'⟩ := ih h₁ hrest
        refine ⟨s', ?_, h'⟩
        simp only [sentReply, htext, hslot.binary, hfree, storeReply, if_pos hbound, hrest',
          Option.bind_eq_bind, Option.bind_some, Int.toNat_natCast]
        rw [hslot.deviceID, hslot.type, hslot.randomSeq]

theorem update_refines (malloc : Malloc) {pending rest : List (Sample DataInfoRequest)}
    {t' : DatainfoAgent.AgentState σ} {sent : List DataInfoReply}
    (h : Linked s t [] files contents)
    (hrun : DatainfoAgent.datainfoAgentUpdate agent pending t = some (t', rest, sent)) :
    ∃ s' files', datainfoAgentUpdate malloc agent pending s = some (s', rest, sent) ∧
      Linked s' t' [] files' (contents ++ contentsRead agent (taken pending) t.world) := by
  simp only [DatainfoAgent.datainfoAgentUpdate, DdsTransport.tryRecv_eq, Option.bind_eq_bind,
    Option.bind_eq_some_iff, Option.map_eq_some_iff, Option.some.injEq, Prod.mk.injEq] at hrun
  obtain ⟨_, ⟨t₁, hrecv, rfl⟩, ⟨t₂, sent₂⟩, hsend, rfl, rfl, rfl⟩ := hrun
  obtain ⟨s₁, is₁, files₁, hrecv', h₁⟩ := receive_refines malloc _ h hrecv
  obtain ⟨s₂, hsend', h₂⟩ := sendData_refines h₁ hsend
  refine ⟨s₂, files₁, ?_, h₂⟩
  simp only [datainfoAgentUpdate, DdsTransport.tryRecv_eq, hrecv', hsend', Option.map_some,
    Option.bind_eq_bind, Option.bind_some]

theorem contentsRead_append (reqs later : List DataInfoRequest) {t' : DatainfoAgent.AgentState σ}
    (hrun : runCallback (DatainfoAgent.recvRequest agent) t reqs = some t') :
    contentsRead agent (reqs ++ later) t.world =
      contentsRead agent reqs t.world ++ contentsRead agent later t'.world := by
  induction reqs generalizing t with
  | nil =>
    obtain rfl := Option.some.inj hrun
    rfl
  | cons req reqs ih =>
    rw [DdsTransport.runCallback_cons] at hrun
    obtain ⟨⟨t₁, r⟩, hrecv, hrun⟩ := Option.bind_eq_some_iff.mp hrun
    rw [List.cons_append, contentsRead_cons req (reqs ++ later) hrecv,
      contentsRead_cons req reqs hrecv, ih hrun, List.append_assoc]

theorem sendData_world {fuel : ℕ} {t' : DatainfoAgent.AgentState σ} {sent : List DataInfoReply}
    (hrun : DatainfoAgent.datainfoAgentSendData fuel t = some (t', sent)) :
    t'.world = t.world := by
  induction fuel generalizing t sent with
  | zero => cases hrun
  | succ fuel ih =>
    simp only [DatainfoAgent.datainfoAgentSendData] at hrun
    split at hrun
    case isTrue =>
      obtain ⟨rfl, -⟩ := Prod.mk.inj (Option.some.inj hrun)
      rfl
    case isFalse =>
      obtain ⟨slot, -, hrun⟩ := Option.bind_eq_some_iff.mp hrun
      cases hmsg : slot.msg with
      | none =>
        simp only [hmsg] at hrun
        exact (ih hrun :)
      | some msg =>
        simp only [hmsg, DatainfoAgent.storeReply, Option.bind_eq_bind, Option.bind_eq_some_iff,
          Option.ite_none_right_eq_some] at hrun
        obtain ⟨t₁, ⟨-, hstored⟩, ⟨t₂, sent₂⟩, hrest, hend⟩ := hrun
        obtain rfl := Option.some.inj hstored
        obtain ⟨rfl, -⟩ := Prod.mk.inj (Option.some.inj hend)
        exact (ih hrest :)

theorem updates_refines (events : List (Malloc × List (Sample DataInfoRequest)))
    {t' : DatainfoAgent.AgentState σ} {sent : List DataInfoReply}
    (h : Linked s t [] files contents)
    (hrun : AgentReplies.updates agent t (events.map Prod.snd) = some (t', sent)) :
    ∃ s' files', updates agent s events = some (s', sent) ∧ Linked s' t' [] files'
      (contents ++ contentsRead agent (events.flatMap fun e => taken e.2) t.world) := by
  induction events generalizing s t files contents sent with
  | nil =>
    obtain ⟨rfl, rfl⟩ := Prod.mk.inj (Option.some.inj hrun)
    exact ⟨s, files, rfl, by simpa [contentsRead] using h⟩
  | cons e later ih =>
    obtain ⟨malloc, pending⟩ := e
    simp only [List.map_cons, AgentReplies.updates, Option.bind_eq_bind,
      Option.bind_eq_some_iff, Option.some.injEq, Prod.mk.injEq] at hrun
    obtain ⟨⟨t₁, rest, sent₁⟩, hupdate, ⟨t₂, sent₂⟩, hlater, rfl, rfl⟩ := hrun
    obtain ⟨s₁, files₁, hupdate', h₁⟩ := update_refines malloc h hupdate
    obtain ⟨s', files', hlater', h'⟩ := ih h₁ hlater
    refine ⟨s', files', ?_, ?_⟩
    · simp only [updates, hupdate', hlater', Option.bind_eq_bind, Option.bind_some]
    · simp only [DatainfoAgent.datainfoAgentUpdate, DdsTransport.tryRecv_eq, Option.bind_eq_bind,
        Option.bind_eq_some_iff, Option.map_eq_some_iff, Option.some.injEq,
        Prod.mk.injEq] at hupdate
      obtain ⟨_, ⟨t₃, hrecv, rfl⟩, ⟨t₄, sent₄⟩, hsend, rfl, -, -⟩ := hupdate
      rw [List.flatMap_cons, contentsRead_append _ _ hrecv, ← sendData_world hsend,
        ← List.append_assoc]
      exact h'

/-- Wherever the allocator puts the blocks: in every run of updates in which the agent is
defined on texts, it never reads, writes or frees a block that is not live, and sends the same
replies. All that is live in the end are the contents of the files it has exported, each in a
block of its own, so one block is lost with every file that is opened. -/
theorem memory_of_run (events : List (Malloc × List (Sample DataInfoRequest))) (w : σ)
    {t' : DatainfoAgent.AgentState σ} {sent : List DataInfoReply}
    (hrun : AgentReplies.updates agent (DatainfoAgent.datainfoAgentInit w)
      (events.map Prod.snd) = some (t', sent)) :
    ∃ s files, updates agent (datainfoAgentInit w) events = some (s, sent) ∧
      s.world = t'.world ∧ Owns s.blocks files ∧
      files.map (read · s.blocks) =
        (contentsRead agent (events.flatMap fun e => taken e.2) w).map
          fun bs => some (.bytes bs) := by
  have hinit : Linked (datainfoAgentInit w) (DatainfoAgent.datainfoAgentInit w) [] [] [] :=
    ⟨accounts_init w, shows_init w, rfl⟩
  obtain ⟨s, files, hrun', h⟩ := updates_refines events hinit hrun
  exact ⟨s, files, hrun', h.shows.world, h.accounts.owns, h.keeps⟩

def smallAgent : Agent Unit :=
  ⟨1, [⟨"k".toList, some fun w => ("v".toList, w), none⟩],
    [⟨"f".toList, some "p".toList, none, some fun _ _ _ w => (0, w)⟩], 64,
    fun _ _ w => some w, fun _ _ => some [7, 8]⟩

def getAndExports : List (Malloc × List (Sample DataInfoRequest)) :=
  [(.bump, [⟨true, [1], .get, 5, "k;".toList, []⟩, ⟨true, [1], .exportFile, 6, "f;n".toList, []⟩]),
    (.bump, [⟨true, [1], .exportFile, 7, "f;n".toList, []⟩])]

theorem memory_of_run_exports : ∃ s sent files,
    updates smallAgent (datainfoAgentInit ()) getAndExports = some (s, sent) ∧
      sent.length = 3 ∧ Owns s.blocks files ∧
      files.map (read · s.blocks) = [some (.bytes [7, 8]), some (.bytes [7, 8])] := by
  obtain ⟨⟨t', sent⟩, hrun⟩ := Option.isSome_iff_exists.mp (show (AgentReplies.updates smallAgent
    (DatainfoAgent.datainfoAgentInit ()) (getAndExports.map Prod.snd)).isSome by decide +kernel)
  have hlength : (AgentReplies.updates smallAgent (DatainfoAgent.datainfoAgentInit ())
      (getAndExports.map Prod.snd)).map (·.2.length) = some 3 := by decide +kernel
  obtain ⟨s, files, hblocks, -, howns, hfiles⟩ := memory_of_run getAndExports () hrun
  rw [hrun] at hlength
  refine ⟨s, sent, files, hblocks, Option.some.inj hlength, howns, hfiles.trans ?_⟩
  decide +kernel

end ReplyOwnership
