import RmtLibrary.RmtAgent
import RmtLibrary.RmtServer

/-! # The initialisation of a transport

`dds_transport_init`, `dds_transport_server_init` and `dds_transport_agent_init` with the block
they allocate, the entities they ask DDS for and the cleanup behind their `exit` labels. `none`
stands for undefined behaviour: a transport that was freed is read, written or freed again. -/
namespace TransportInit

inductive PairKind where
  | devInfo
  | dataReq
  | dataReply
  deriving DecidableEq, Repr

structure CommPair where
  topic : ℤ
  reader : ℤ
  writer : ℤ

structure Transport where
  participant : ℤ
  pairs : PairKind → CommPair

/-- The points at which an entity is created. A call passes each of them at most once. -/
inductive Creation where
  | participant
  | topic (kind : PairKind)
  | reader (kind : PairKind)
  | writer (kind : PairKind)
  | zenohTopic
  | zenohReader
  deriving DecidableEq, Repr

/-- What a call meets: the block that `malloc` gives, with its content, and the answer of each
creation, a handle or a negative code. -/
structure Env where
  memory : Option Transport
  answer : Creation → ℤ

/-- `g_participant_num` and the transports in memory. The code does not keep the rest: the name of
the next transport, the participants that were created, and what `dds_delete` and `free` were
called with. -/
structure World where
  participantNum : BitVec 32
  allocated : ℕ → Option Transport
  nextTransport : ℕ
  created : List ℤ
  deleted : List ℤ
  freed : List ℕ

def World.malloc (content : Transport) (w : World) : World :=
  { w with
    allocated := Function.update w.allocated w.nextTransport (some content)
    nextTransport := w.nextTransport + 1 }

def World.free (name : ℕ) (w : World) : World :=
  { w with
    allocated := Function.update w.allocated name none
    freed := name :: w.freed }

/-- The handles of the zenoh entities stay in local variables. -/
def Transport.store (transport : Transport) (entity : ℤ) : Creation → Transport
  | .participant => { transport with participant := entity }
  | .topic kind =>
    { transport with
      pairs := Function.update transport.pairs kind { transport.pairs kind with topic := entity } }
  | .reader kind =>
    { transport with
      pairs := Function.update transport.pairs kind { transport.pairs kind with reader := entity } }
  | .writer kind =>
    { transport with
      pairs := Function.update transport.pairs kind { transport.pairs kind with writer := entity } }
  | .zenohTopic => transport
  | .zenohReader => transport

def ddsCreate (e : Env) (name : ℕ) (c : Creation) (w : World) : Option (World × ℤ) := do
  let transport ← w.allocated name
  let entity := e.answer c
  let w :=
    { w with
      allocated := Function.update w.allocated name (some (transport.store entity c))
      created := if c = .participant ∧ 0 ≤ entity then entity :: w.created else w.created }
  some (w, if entity < 0 then -1 else 0)

def ddsCreates (e : Env) (name : ℕ) : List Creation → World → Option (World × ℤ)
  | [], w => some (w, 0)
  | c :: cs, w => do
    let (w, ret) ← ddsCreate e name c w
    if ret = 0 then ddsCreates e name cs w else some (w, ret)

def exit (name : ℕ) (w : World) (ret : ℤ) : Option (World × Option ℕ) :=
  if ret = -1 then do
    let transport ← w.allocated name
    some (({ w with deleted := transport.participant :: w.deleted }).free name, some name)
  else some (w, some name)

def topics : List Creation := [.topic .devInfo, .topic .dataReq, .topic .dataReply]

def ddsTransportInit (e : Env) (w : World) : Option (World × Option ℕ) :=
  match e.memory with
  | none => some (w, none)
  | some content => do
    let name := w.nextTransport
    let (w, ret) ← ddsCreate e name .participant (w.malloc content)
    if ret = 0 then do
      let (w, ret) ← ddsCreates e name topics { w with participantNum := w.participantNum + 1 }
      exit name w ret
    else exit name w ret

/-- The frame of the two outer functions, around the entities of their side. -/
def initWith (creations : List Creation) (e : Env) (w : World) : Option (World × Option ℕ) := do
  match ← ddsTransportInit e w with
  | (w, none) => some (w, none)
  | (w, some name) =>
    let (w, ret) ← ddsCreates e name creations w
    exit name w ret

/-- `zenoh` says that the build and the configuration support it. -/
def serverCreations (zenoh : Bool) : List Creation :=
  (if zenoh then [.zenohTopic, .zenohReader] else []) ++
    [.reader .devInfo, .writer .dataReq, .reader .dataReply]

def agentCreations : List Creation := [.writer .devInfo, .reader .dataReq, .writer .dataReply]

def ddsTransportServerInit (zenoh : Bool) : Env → World → Option (World × Option ℕ) :=
  initWith (serverCreations zenoh)

def ddsTransportAgentInit : Env → World → Option (World × Option ℕ) := initWith agentCreations

def common : List Creation := .participant :: topics

def Fails (e : Env) (creations : List Creation) : Prop :=
  e.memory.isSome ∧ ∃ c ∈ common ++ creations, e.answer c < 0

/-- The call ends with `NULL`, the participants it created are deleted and the block is freed
exactly once, and `g_participant_num` is as before. -/
structure CleanFailure (w w' : World) (returned : Option ℕ) : Prop where
  null : returned = none
  participant : ∃ created deleted, w'.created = created ++ w.created ∧
    w'.deleted = deleted ++ w.deleted ∧ ∀ p ∈ created, deleted.count p = 1
  memory : w'.freed = w.nextTransport :: w.freed
  count : w'.participantNum = w.participantNum

def FailsClean (w : World) (r : Option (World × Option ℕ)) : Prop :=
  ∃ w' returned, r = some (w', returned) ∧ CleanFailure w w' returned

theorem ddsCreate_dangling {w : World} {name : ℕ} (hfreed : w.allocated name = none) (e : Env)
    (c : Creation) : ddsCreate e name c w = none := by
  simp [ddsCreate, hfreed]

theorem ddsCreate_live {w : World} {name : ℕ} {transport : Transport}
    (hlive : w.allocated name = some transport) (e : Env) (c : Creation) :
    ddsCreate e name c w = some
      ({ w with
          allocated :=
            Function.update w.allocated name (some (transport.store (e.answer c) c))
          created :=
            if c = .participant ∧ 0 ≤ e.answer c then e.answer c :: w.created else w.created },
        if e.answer c < 0 then -1 else 0) := by
  simp [ddsCreate, hlive]

theorem store_participant {c : Creation} (hc : c ≠ .participant) (transport : Transport)
    (entity : ℤ) : (transport.store entity c).participant = transport.participant := by
  cases c with
  | participant => exact absurd rfl hc
  | topic kind => rfl
  | reader kind => rfl
  | writer kind => rfl
  | zenohTopic => rfl
  | zenohReader => rfl

theorem ddsCreates_live {creations : List Creation} (hown : .participant ∉ creations) (e : Env)
    {name : ℕ} {w : World} {transport : Transport} (hlive : w.allocated name = some transport) :
    ∃ transport', transport'.participant = transport.participant ∧
      ddsCreates e name creations w = some
        ({ w with allocated := Function.update w.allocated name (some transport') },
          if ∃ c ∈ creations, e.answer c < 0 then -1 else 0) := by
  induction creations generalizing w transport with
  | nil =>
    refine ⟨transport, rfl, ?_⟩
    rw [← hlive, Function.update_eq_self]
    simp [ddsCreates]
  | cons c creations ih =>
    have hne : c ≠ .participant := fun h => hown (h ▸ List.mem_cons_self)
    have hparticipant := store_participant hne transport (e.answer c)
    rw [ddsCreates, ddsCreate_live hlive]
    by_cases hneg : e.answer c < 0
    · exact ⟨_, hparticipant, by simp [hneg, hne]⟩
    · obtain ⟨transport', hsame, hrun⟩ :=
        ih (fun h => hown (List.mem_cons_of_mem _ h)) (w :=
          { w with
            allocated :=
              Function.update w.allocated name (some (transport.store (e.answer c) c)) })
          (Function.update_self ..)
      refine ⟨transport', hsame.trans hparticipant, ?_⟩
      simpa [hneg, hne] using hrun

theorem exit_failed {w : World} {name : ℕ} {transport : Transport}
    (hlive : w.allocated name = some transport) :
    exit name w (-1) = some
      (({ w with deleted := transport.participant :: w.deleted }).free name, some name) := by
  simp [exit, hlive]

structure Opened (e : Env) (w w' : World) : Prop where
  live : ∃ transport, w'.allocated w.nextTransport = some transport ∧
    transport.participant = e.answer .participant
  next : w'.nextTransport = w.nextTransport + 1
  created : w'.created = e.answer .participant :: w.created
  deleted : w'.deleted = w.deleted
  freed : w'.freed = w.freed
  count : w'.participantNum = w.participantNum + 1

structure Released (e : Env) (w w' : World) : Prop where
  gone : w'.allocated w.nextTransport = none
  next : w'.nextTransport = w.nextTransport + 1
  created : w'.created =
    if 0 ≤ e.answer .participant then e.answer .participant :: w.created else w.created
  deleted : w'.deleted = e.answer .participant :: w.deleted
  freed : w'.freed = w.nextTransport :: w.freed
  count : w'.participantNum =
    if 0 ≤ e.answer .participant then w.participantNum + 1 else w.participantNum

theorem creates_opened {creations : List Creation} (hown : .participant ∉ creations) {e : Env}
    {w w₁ : World} (hopened : Opened e w w₁) (hparticipant : 0 ≤ e.answer .participant) :
    ∃ w', ((ddsCreates e w.nextTransport creations w₁).bind fun r =>
        exit w.nextTransport r.1 r.2) = some (w', some w.nextTransport) ∧
      if ∃ c ∈ creations, e.answer c < 0 then Released e w w' else Opened e w w' := by
  obtain ⟨transport, hlive, hhandle⟩ := hopened.live
  obtain ⟨transport', hsame, hrun⟩ := ddsCreates_live hown e hlive
  rw [hrun, Option.bind_some]
  split
  · next hfails =>
    rw [exit_failed (Function.update_self ..)]
    refine ⟨_, rfl, ?_⟩
    constructor
    · exact Function.update_self ..
    · exact hopened.next
    · rw [if_pos hparticipant]
      exact hopened.created
    · rw [← hhandle, ← hsame, ← hopened.deleted]
      rfl
    · rw [← hopened.freed]
      rfl
    · rw [if_pos hparticipant]
      exact hopened.count
  · next hworks =>
    refine ⟨_, rfl, ?_⟩
    exact ⟨⟨transport', Function.update_self .., hsame.trans hhandle⟩, hopened.next,
      hopened.created, hopened.deleted, hopened.freed, hopened.count⟩

theorem ddsTransportInit_spec {e : Env} {content : Transport} (hmem : e.memory = some content)
    (w : World) : ∃ w', ddsTransportInit e w = some (w', some w.nextTransport) ∧
      if ∃ c ∈ common, e.answer c < 0 then Released e w w'
      else Opened e w w' := by
  have hlive : (w.malloc content).allocated w.nextTransport = some content :=
    Function.update_self ..
  rw [ddsTransportInit, hmem]
  by_cases hneg : e.answer .participant < 0
  · have hfails : ∃ c ∈ common, e.answer c < 0 :=
      ⟨_, List.mem_cons_self, hneg⟩
    simp only [ddsCreate_live hlive, hneg, if_true, Option.bind_eq_bind, Option.bind_some]
    rw [if_neg (by decide), exit_failed (Function.update_self ..)]
    refine ⟨_, rfl, ?_⟩
    rw [if_pos hfails]
    constructor
    · exact Function.update_self ..
    · rfl
    · rw [if_neg (not_le.mpr hneg)]
      exact if_neg fun h => absurd h.2 (not_le.mpr hneg)
    · rfl
    · rfl
    · rw [if_neg (not_le.mpr hneg)]
      rfl
  · have hparticipant : 0 ≤ e.answer .participant := not_lt.mp hneg
    have hopened : Opened e w
        { (w.malloc content) with
          allocated := Function.update (w.malloc content).allocated w.nextTransport
            (some (content.store (e.answer .participant) .participant))
          created := e.answer .participant :: w.created
          participantNum := w.participantNum + 1 } :=
      ⟨⟨_, Function.update_self .., rfl⟩, rfl, rfl, rfl, rfl, rfl⟩
    obtain ⟨w', hrun, hend⟩ := @creates_opened topics (by decide) _ _ _ hopened hparticipant
    refine ⟨w', ?_, ?_⟩
    · simp only [ddsCreate_live hlive, hneg, if_false, Option.bind_eq_bind, Option.bind_some,
        hparticipant, and_self, if_true]
      exact hrun
    · simpa [common, hneg] using hend

theorem initWith_inner_failed {e : Env} (hmem : e.memory.isSome)
    (hfails : ∃ c ∈ common, e.answer c < 0) {creations : List Creation}
    (hne : creations ≠ []) (w : World) : initWith creations e w = none := by
  obtain ⟨content, hcontent⟩ := Option.isSome_iff_exists.mp hmem
  obtain ⟨w₁, hinit, hend⟩ := ddsTransportInit_spec hcontent w
  rw [if_pos hfails] at hend
  obtain ⟨c, creations, rfl⟩ := List.exists_cons_of_ne_nil hne
  simp [initWith, hinit, ddsCreates, ddsCreate_dangling hend.gone]

/-- Where only the outer function fails it cleans up once, and returns the block it freed. -/
theorem initWith_spec {e : Env} (hmem : e.memory.isSome)
    (hworks : ∀ c ∈ common, 0 ≤ e.answer c) {creations : List Creation}
    (hown : .participant ∉ creations) (w : World) :
    ∃ w', initWith creations e w = some (w', some w.nextTransport) ∧
      if ∃ c ∈ creations, e.answer c < 0 then Released e w w' else Opened e w w' := by
  obtain ⟨content, hcontent⟩ := Option.isSome_iff_exists.mp hmem
  obtain ⟨w₁, hinit, hend⟩ := ddsTransportInit_spec hcontent w
  have hnone : ¬ ∃ c ∈ common, e.answer c < 0 := by
    rintro ⟨c, hc, hneg⟩
    exact absurd (hworks c hc) (not_le.mpr hneg)
  rw [if_neg hnone] at hend
  obtain ⟨w', hrun, hend'⟩ := creates_opened hown hend (hworks _ List.mem_cons_self)
  refine ⟨w', ?_, hend'⟩
  rw [initWith, hinit]
  exact hrun

theorem not_mem_serverCreations (zenoh : Bool) : .participant ∉ serverCreations zenoh := by
  cases zenoh <;> decide

theorem serverCreations_ne (zenoh : Bool) : serverCreations zenoh ≠ [] := by
  cases zenoh <;> decide

/-- An outer function that returns has opened a transport, or has released one it returns. -/
theorem initWith_cases {creations : List Creation} (hown : .participant ∉ creations)
    (hne : creations ≠ []) {e : Env} {w w' : World} {returned : Option ℕ}
    (hrun : initWith creations e w = some (w', returned)) :
    (e.memory = none ∧ w' = w ∧ returned = none) ∨
    (returned = some w.nextTransport ∧ Opened e w w' ∧ ¬ Fails e creations) ∨
    (returned = some w.nextTransport ∧ Released e w w' ∧ Fails e creations) := by
  cases hcontent : e.memory with
  | none =>
    simp only [initWith, ddsTransportInit, hcontent, Option.bind_eq_bind, Option.bind_some,
      Option.some.injEq, Prod.mk.injEq] at hrun
    exact Or.inl ⟨rfl, hrun.1.symm, hrun.2.symm⟩
  | some content =>
    have hmem : e.memory.isSome := Option.isSome_of_mem hcontent
    by_cases hinner : ∃ c ∈ common, e.answer c < 0
    · rw [initWith_inner_failed hmem hinner hne] at hrun
      cases hrun
    · have hworks : ∀ c ∈ common, 0 ≤ e.answer c := by
        intro c hc
        exact not_lt.mp fun hneg => hinner ⟨c, hc, hneg⟩
      obtain ⟨w₂, hrun', hend⟩ := initWith_spec hmem hworks hown w
      obtain ⟨rfl, rfl⟩ := Prod.mk.inj (Option.some.inj (hrun'.symm.trans hrun))
      split at hend
      · next hfails =>
        obtain ⟨c, hc, hneg⟩ := hfails
        exact Or.inr (Or.inr ⟨rfl, hend, hmem, c, List.mem_append_right _ hc, hneg⟩)
      · next hfine =>
        refine Or.inr (Or.inl ⟨rfl, hend, ?_⟩)
        rintro ⟨-, c, hc, hneg⟩
        rcases List.mem_append.mp hc with hc | hc
        · exact hinner ⟨c, hc, hneg⟩
        · exact hfine ⟨c, hc, hneg⟩

theorem not_failsClean {creations : List Creation} (hown : .participant ∉ creations)
    (hne : creations ≠ []) {e : Env} (hfails : Fails e creations) (w : World) :
    ¬ FailsClean w (initWith creations e w) := by
  rintro ⟨w', returned, hrun, hclean⟩
  rcases initWith_cases hown hne hrun with ⟨hnone, -⟩ | ⟨hreturned, -⟩ | ⟨hreturned, -⟩
  · have hmem := hfails.1
    rw [hnone] at hmem
    cases hmem
  · exact absurd (hreturned.symm.trans hclean.null) (by simp)
  · exact absurd (hreturned.symm.trans hclean.null) (by simp)

/-- No call in which a creation fails is clean, whatever the point. -/
theorem failing_init_never_clean (e : Env) (w : World) :
    (∀ zenoh, Fails e (serverCreations zenoh) →
      ¬ FailsClean w (ddsTransportServerInit zenoh e w)) ∧
    (Fails e agentCreations → ¬ FailsClean w (ddsTransportAgentInit e w)) :=
  ⟨fun zenoh hfails =>
      not_failsClean (not_mem_serverCreations zenoh) (serverCreations_ne zenoh) hfails w,
    fun hfails => not_failsClean (by decide) (by decide) hfails w⟩

def failingAt (point : Creation) : Env :=
  ⟨some ⟨0, fun _ => ⟨0, 0, 0⟩⟩, fun c => if c = point then -1 else 1⟩

def fresh : World := ⟨0, fun _ => none, 0, [], [], []⟩

theorem failing_init_never_clean_writer :
    ¬ FailsClean fresh (ddsTransportAgentInit (failingAt (.writer .devInfo)) fresh) :=
  (failing_init_never_clean (failingAt (.writer .devInfo)) fresh).2
    ⟨rfl, .writer .devInfo, by decide, by decide⟩

/-- Without its first reader the server gets a transport that was freed, and a participant too
many is counted. Without a topic the server goes on with the freed transport. -/
theorem failed_init_looks_fine :
    Fails (failingAt (.reader .devInfo)) (serverCreations false) ∧
    ((ddsTransportServerInit false (failingAt (.reader .devInfo)) fresh).map fun r =>
      (r.2, r.1.freed, r.1.deleted, r.1.participantNum)) = some (some 0, [0], [1], 1) ∧
    ¬ FailsClean fresh (ddsTransportServerInit false (failingAt (.reader .devInfo)) fresh) ∧
    Fails (failingAt (.topic .dataReq)) (serverCreations false) ∧
    ddsTransportServerInit false (failingAt (.topic .dataReq)) fresh = none ∧
    ¬ FailsClean fresh (ddsTransportServerInit false (failingAt (.topic .dataReq)) fresh) := by
  refine ⟨⟨rfl, .reader .devInfo, by decide, by decide⟩, by decide, ?_,
    ⟨rfl, .topic .dataReq, by decide, by decide⟩, rfl, ?_⟩
  · exact not_failsClean (by decide) (by decide) ⟨rfl, .reader .devInfo, by decide, by decide⟩ _
  · rintro ⟨w', returned, hrun, -⟩
    cases hrun

/-- The test of `NULL` in the callers finds a lack of memory and nothing else. -/
theorem initWith_null_iff {creations : List Creation} (hown : .participant ∉ creations)
    (hne : creations ≠ []) (e : Env) (w : World) :
    (∃ w', initWith creations e w = some (w', none)) ↔ e.memory = none := by
  constructor
  · rintro ⟨w', hrun⟩
    rcases initWith_cases hown hne hrun with ⟨hnone, -⟩ | ⟨hreturned, -⟩ | ⟨hreturned, -⟩
    · exact hnone
    · cases hreturned
    · cases hreturned
  · intro hnone
    exact ⟨w, by simp [initWith, ddsTransportInit, hnone]⟩

/-- Where the call is defined it is one of the outcomes that the life of the server is about. -/
theorem serverInit_outcome {zenoh : Bool} {e : Env} {w w' : World} {returned : Option ℕ}
    (hrun : ddsTransportServerInit zenoh e w = some (w', returned)) {info : RmtServer.ServerInfo}
    (hnext : info.nextTransport = w.nextTransport) (hfreed : info.freed = w.freed) :
    ∃ outcome, RmtServer.ddsTransportServerInit info outcome =
      { info with
        transport := returned, nextTransport := w'.nextTransport, freed := w'.freed } := by
  rcases initWith_cases (not_mem_serverCreations zenoh) (serverCreations_ne zenoh) hrun with
    ⟨-, rfl, rfl⟩ | ⟨rfl, hend, -⟩ | ⟨rfl, hend, -⟩
  · exact ⟨.noMemory, by rw [← hnext, ← hfreed]; rfl⟩
  · exact ⟨.created, by rw [hend.next, hend.freed, ← hnext, ← hfreed]; rfl⟩
  · exact ⟨.failed, by rw [hend.next, hend.freed, ← hnext, ← hfreed]; rfl⟩

theorem agentInit_outcome {e : Env} {w w' : World} {returned : Option ℕ}
    (hrun : ddsTransportAgentInit e w = some (w', returned)) {g : RmtAgent.Globals}
    (hnext : g.heap.next = w.nextTransport) (hfreed : g.heap.freed = w.freed) :
    ∃ outcome, (RmtAgent.ddsTransportAgentInit outcome g).transport = returned ∧
      (RmtAgent.ddsTransportAgentInit outcome g).heap.next = w'.nextTransport ∧
      (RmtAgent.ddsTransportAgentInit outcome g).heap.freed = w'.freed := by
  rcases initWith_cases (by decide) (by decide) hrun with
    ⟨-, rfl, rfl⟩ | ⟨rfl, hend, -⟩ | ⟨rfl, hend, -⟩
  · exact ⟨.noMemory, rfl, hnext, hfreed⟩
  · exact ⟨.created, by rw [← hnext]; rfl, by rw [hend.next, ← hnext]; rfl,
      by rw [hend.freed, ← hfreed]; rfl⟩
  · refine ⟨.failed, by rw [← hnext]; rfl, ?_, ?_⟩
    · rw [hend.next, ← hnext]
      exact Nat.max_self _
    · rw [hend.freed, ← hfreed, ← hnext]
      rfl

end TransportInit
