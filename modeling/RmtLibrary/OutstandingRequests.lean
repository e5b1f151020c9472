import RmtLibrary.ConcurrentCalls

/-! # Outstanding requests

A reply is told apart by its type and its random sequence only, and what it is compared with is
shared by the threads of a process. The conditions under which no two requests can be taken for
each other, and the invariant that they keep. -/
namespace OutstandingRequests

open ConcurrentCalls

variable {ρ : Type}

def beforeDraw : Pc → Bool
  | .checkStatus | .message | .idList | .msg | .type | .srand | .randomSeq => true
  | _ => false

def typed : Pc → Bool
  | .checkStatus | .message | .idList | .msg | .type | .returned => false
  | _ => true

/-- From the draw to the last statement that reads the sequence in the request record. -/
def needsStatic : Pc → Bool
  | .binary | .instanceKey | .sendRequest | .sendTransfer | .statStatus | .statRecvNum |
    .statRandomSeq => true
  | _ => false

def keyed : Pc → Bool
  | .sendRequest | .startTime | .loopTest | .drain | .received _ | .nowTime => true
  | _ => false

/-- The transfer record is marked as running and not filled in yet. -/
def filling : Pc → Bool
  | .statRecvNum | .statRandomSeq | .statType | .statIdNum | .statIdList | .statStartTime => true
  | _ => false

/-- The transfer record has the sequence of an earlier transfer. -/
def unsequenced : Pc → Bool
  | .statRecvNum | .statRandomSeq => true
  | _ => false

/-- The transfer record has the sequence or the type of an earlier transfer. -/
def midway : Pc → Bool
  | .statRecvNum | .statRandomSeq | .statType => true
  | _ => false

/-- The sequence of the call is not in the transfer record. -/
def unpublished : Pc → Bool
  | .statType | .statIdNum | .statIdList | .statStartTime | .returned => false
  | _ => true

def holding : PollPc → Bool
  | .received .. => true
  | _ => false

def draining : PollPc → Bool
  | .init _ | .loop .. | .drain .. | .received .. => true
  | _ => false

/-- The sequence has not been drawn by a call of the same type, is not that of an outstanding call
of the process, and is not what the transfer record or the poll of the process has. -/
def Fresh (s : System ρ) (c : Call) (randomSeq : ℕ) : Prop :=
  (∀ j < s.calls.length, ∀ d ∈ s.calls[j]?, d.drawn = some randomSeq → d.args.fn ≠ c.args.fn ∧
    ¬ (d.process = c.process ∧ Outstanding (s.process c.process) j d)) ∧
  (s.process c.process).stat.randomSeq ≠ randomSeq ∧
  (s.process c.process).poll.key ≠ some randomSeq

def FreshSeq (G : RandLib ρ) (s : System ρ) (c : Call) : Prop :=
  c.pc = .randomSeq → Fresh s c (G.rand (s.process c.process).rand).1

/-- A call draws its sequence into a request record that no other call needs. -/
def FreeStatic (s : System ρ) (c : Call) : Prop :=
  c.pc = .randomSeq → ∀ j < s.calls.length, ∀ d ∈ s.calls[j]?,
    d.process = c.process → d.args.fn = c.args.fn → needsStatic d.pc = false

/-- A call marks a transfer as running while none runs and none is being filled in. -/
def FreeRecord (s : System ρ) (c : Call) : Prop :=
  c.pc = .statStatus → (s.process c.process).stat.status = 0 ∧
    ∀ j < s.calls.length, ∀ d ∈ s.calls[j]?, d.process = c.process → filling d.pc = false

/-- The poll compares a reply with a transfer record of one transfer. -/
def WholeRecord (s : System ρ) (p : ℕ) : Prop :=
  holding (s.process p).poll = true → ∀ j < s.calls.length, ∀ d ∈ s.calls[j]?,
    d.process = p → midway d.pc = false

/-- No two outstanding requests can be taken for each other. -/
def Apart (G : RandLib ρ) (s : System ρ) : Event → Prop
  | .op i _ => ∀ c ∈ s.calls[i]?, FreshSeq G s c ∧ FreeStatic s c ∧ FreeRecord s c
  | .poll p _ => WholeRecord s p
  | _ => True

instance (s : System ρ) (c : Call) (randomSeq : ℕ) : Decidable (Fresh s c randomSeq) :=
  inferInstanceAs (Decidable ((∀ j < s.calls.length, ∀ d ∈ s.calls[j]?, _ → _ ∧ ¬ (_ ∧ _)) ∧ _))

instance (G : RandLib ρ) (s : System ρ) (c : Call) :
    Decidable (FreshSeq G s c ∧ FreeStatic s c ∧ FreeRecord s c) := by
  unfold FreshSeq FreeStatic FreeRecord
  infer_instance

instance (s : System ρ) (p : ℕ) : Decidable (WholeRecord s p) := by
  unfold WholeRecord
  infer_instance

instance (G : RandLib ρ) (s : System ρ) : (e : Event) → Decidable (Apart G s e)
  | .op i _ => inferInstanceAs (Decidable (∀ c ∈ s.calls[i]?, _))
  | .poll p _ => inferInstanceAs (Decidable (WholeRecord s p))
  | .call .. | .answer .. | .deliver .. => isTrue trivial

theorem forall_calls {calls : List Call} {p : ℕ → Call → Prop}
    (h : ∀ j < calls.length, ∀ d ∈ calls[j]?, p j d) {j : ℕ} {d : Call}
    (hd : calls[j]? = some d) : p j d :=
  h j (List.getElem?_eq_some_iff.mp hd).1 d hd

structure CallInv (P : Process ρ) (i : ℕ) (c : Call) : Prop where
  undrawn : beforeDraw c.pc = true → c.drawn = none
  type : typed c.pc = true → (P.static c.args.fn).type = c.args.fn.type
  static : needsStatic c.pc = true → c.drawn = some (P.static c.args.fn).randomSeq
  key : keyed c.pc = true → c.drawn = some c.instanceKey
  taken : ∀ r, c.pc = .received r → r.reply.randomSeq = c.instanceKey
  filling : filling c.pc = true → P.owner = some i
  unpublished : unpublished c.pc = true → ∀ randomSeq, c.drawn = some randomSeq →
    P.stat.randomSeq ≠ randomSeq ∧ P.poll.key ≠ some randomSeq

structure Filled (P : Process ρ) (c : Call) : Prop where
  begun : filling c.pc = true ∨ c.pc = .returned
  seq : unsequenced c.pc = false → c.drawn = some P.stat.randomSeq
  type : midway c.pc = false → P.stat.type = c.args.fn.type

structure ProcessInv (calls : List Call) (p : ℕ) (P : Process ρ) : Prop where
  running : ∀ i ∈ P.running, P.owner = some i
  idle : P.stat.status = 0 → P.running = []
  polling : P.stat.status ≠ 0 ∨ draining P.poll = true → P.owner ≠ none
  record : ∀ i, P.owner = some i → ∃ c, calls[i]? = some c ∧ c.process = p ∧ Filled P c
  taken : ∀ key i r, P.poll = .received key i r → r.reply.randomSeq = key

def From (calls : List Call) (owner : ℕ) (type : Idl.DataInfoType) (randomSeq : ℕ) : Prop :=
  ∃ c, calls[owner]? = some c ∧ c.drawn = some randomSeq ∧ c.args.fn.type = type

def Sourced (calls : List Call) (r : Reply) : Prop :=
  From calls r.owner r.reply.type r.reply.randomSeq

def Has (P : Process ρ) (r : Reply) : Prop :=
  r ∈ P.inFlight ∨ r ∈ P.reader ∨ ∃ key i, P.poll = .received key i r

structure Invariant (s : System ρ) : Prop where
  call : ∀ (i : ℕ) (c : Call), s.calls[i]? = some c → CallInv (s.process c.process) i c
  process : ∀ p, ProcessInv s.calls p (s.process p)
  distinct : ∀ (i j : ℕ) (c d : Call) (randomSeq : ℕ), s.calls[i]? = some c → s.calls[j]? = some d →
    c.drawn = some randomSeq → d.drawn = some randomSeq → c.args.fn = d.args.fn → i = j
  apart : ∀ (i j : ℕ) (c d : Call) (randomSeq : ℕ), s.calls[i]? = some c →
    s.calls[j]? = some d → c.drawn = some randomSeq → d.drawn = some randomSeq →
    c.process = d.process → Outstanding (s.process c.process) i c →
    Outstanding (s.process d.process) j d → i = j
  requests : ∀ req ∈ s.requests, From s.calls req.1 req.2.type req.2.randomSeq
  replies : ∀ p r, Has (s.process p) r → Sourced s.calls r
  received : ∀ (i : ℕ) (c : Call) (r : Reply), s.calls[i]? = some c → c.pc = .received r →
    Sourced s.calls r

theorem invariant_initial (G : RandLib ρ) : Invariant (initial G) := by
  constructor <;> simp [initial, FileTransfer.datainfoServerInit, Has]
  intro p
  constructor <;> simp [draining]

theorem Invariant.call_in {s : System ρ} (h : Invariant s) {p j : ℕ} {d : Call}
    (hd : s.calls[j]? = some d) (hp : d.process = p) : CallInv (s.process p) j d := by
  subst hp
  exact h.call j d hd

theorem getElem?_set_cases {calls : List Call} {i j : ℕ} {c c' d : Call}
    (hc : calls[i]? = some c) (hd : (calls.set i c')[j]? = some d) :
    (j = i ∧ d = c') ∨ (j ≠ i ∧ calls[j]? = some d) := by
  by_cases hij : j = i
  · subst hij
    have hlt : j < calls.length := (List.getElem?_eq_some_iff.mp hc).1
    rw [List.getElem?_set_self hlt] at hd
    exact Or.inl ⟨rfl, (Option.some.inj hd).symm⟩
  · rw [List.getElem?_set_ne (Ne.symm hij)] at hd
    exact Or.inr ⟨hij, hd⟩

theorem exists_set {calls : List Call} {i j : ℕ} {c d : Call} (hc : calls[i]? = some c)
    (hd : calls[j]? = some d) (c' : Call) : ∃ d', (calls.set i c')[j]? = some d' ∧
      ((j = i ∧ d = c ∧ d' = c') ∨ (j ≠ i ∧ d' = d)) := by
  by_cases hij : j = i
  · subst hij
    have hlt : j < calls.length := (List.getElem?_eq_some_iff.mp hc).1
    have hdc : d = c := Option.some.inj (hd.symm.trans hc)
    exact ⟨c', List.getElem?_set_self hlt, Or.inl ⟨rfl, hdc, rfl⟩⟩
  · exact ⟨d, by rw [List.getElem?_set_ne (Ne.symm hij), hd], Or.inr ⟨hij, rfl⟩⟩

theorem From.set {calls : List Call} {i owner randomSeq : ℕ} {c c' : Call}
    {type : Idl.DataInfoType} (hc : calls[i]? = some c) (hargs : c'.args = c.args)
    (hdrawn : ∀ v, c.drawn = some v → c'.drawn = some v)
    (h : From calls owner type randomSeq) : From (calls.set i c') owner type randomSeq := by
  obtain ⟨d, hd, hseq, htype⟩ := h
  obtain ⟨d', hd', ⟨rfl, rfl, rfl⟩ | ⟨-, rfl⟩⟩ := exists_set hc hd c'
  · exact ⟨d', hd', hdrawn _ hseq, by rw [hargs]; exact htype⟩
  · exact ⟨d', hd', hseq, htype⟩

/-- What a statement of call `i` does to its process and to the call. -/
structure Moves (s : System ρ) (i : ℕ) (c : Call) (P : Process ρ) (c' : Call) : Prop where
  process : c'.process = c.process
  args : c'.args = c.args
  drawn : ∀ randomSeq, c.drawn = some randomSeq → c'.drawn = some randomSeq
  active : c.pc ≠ .returned
  fresh : ∀ (j : ℕ) (d : Call) (randomSeq : ℕ), s.calls[j]? = some d → j ≠ i →
    d.drawn = some randomSeq → c'.drawn = some randomSeq → d.args.fn ≠ c.args.fn ∧
      ¬ (d.process = c.process ∧ Outstanding (s.process c.process) j d)
  running : ∀ j ∈ P.running, j ∈ (s.process c.process).running ∨ j = i
  call : CallInv P i c'
  others : ∀ (j : ℕ) (d : Call), s.calls[j]? = some d → j ≠ i → d.process = c.process →
    CallInv P j d
  record : ProcessInv (s.calls.set i c') c.process P
  replies : ∀ r, Has P r → Has (s.process c.process) r
  received : ∀ r, c'.pc = .received r → Sourced s.calls r

theorem outstanding_before {s : System ρ} {i j : ℕ} {c c' d : Call} {P : Process ρ}
    (hm : Moves s i c P c') (hij : j ≠ i) (hd : Outstanding P j d) :
    Outstanding (s.process c.process) j d := by
  refine ⟨hd.1, hd.2.imp_right fun hrun => ?_⟩
  exact (hm.running j hrun).resolve_right hij

theorem Invariant.move {s s' : System ρ} (h : Invariant s) {i : ℕ} {c : Call}
    (hc : s.calls[i]? = some c) {P : Process ρ} {c' : Call} (hm : Moves s i c P c')
    (hcalls : s'.calls = s.calls.set i c') (hself : s'.process c.process = P)
    (hother : ∀ p, p ≠ c.process → s'.process p = s.process p)
    (hreqs : ∀ req ∈ s'.requests, req ∈ s.requests ∨
      From s.calls req.1 req.2.type req.2.randomSeq) : Invariant s' := by
  have hset : ∀ {owner type randomSeq}, From s.calls owner type randomSeq →
      From (s.calls.set i c') owner type randomSeq := From.set hc hm.args hm.drawn
  constructor
  · intro j d hd
    rw [hcalls] at hd
    rcases getElem?_set_cases hc hd with ⟨rfl, rfl⟩ | ⟨hij, hd⟩
    · rw [hm.process, hself]
      exact hm.call
    · by_cases hp : d.process = c.process
      · rw [hp, hself]
        exact hm.others j d hd hij hp
      · rw [hother _ hp]
        exact h.call j d hd
  · intro p
    rw [hcalls]
    by_cases hp : p = c.process
    · rw [hp, hself]
      exact hm.record
    · rw [hother p hp]
      obtain ⟨hrunning, hidle, hpolling, hrecord, htaken⟩ := h.process p
      refine ⟨hrunning, hidle, hpolling, ?_, htaken⟩
      intro j hj
      obtain ⟨d, hd, hdp, hfilled⟩ := hrecord j hj
      obtain ⟨d', hd', ⟨rfl, rfl, rfl⟩ | ⟨-, rfl⟩⟩ := exists_set hc hd c'
      · exact absurd hdp.symm hp
      · exact ⟨d', hd', hdp, hfilled⟩
  · intro j k d e randomSeq hd he hdd hed hfn
    rw [hcalls] at hd he
    rcases getElem?_set_cases hc hd with ⟨rfl, rfl⟩ | ⟨hij, hd₀⟩ <;>
      rcases getElem?_set_cases hc he with ⟨rfl, rfl⟩ | ⟨hik, he₀⟩
    · rfl
    · exact absurd (hfn.symm.trans (by rw [hm.args])) (hm.fresh k e randomSeq he₀ hik hed hdd).1
    · exact absurd (hfn.trans (by rw [hm.args])) (hm.fresh j d randomSeq hd₀ hij hdd hed).1
    · exact h.distinct j k d e randomSeq hd₀ he₀ hdd hed hfn
  · intro j k d e randomSeq hd he hdd hed hproc hod hoe
    rw [hcalls] at hd he
    have hold : ∀ {l : ℕ} {f : Call}, l ≠ i → Outstanding (s'.process f.process) l f →
        Outstanding (s.process f.process) l f := by
      intro l f hil hof
      by_cases hp : f.process = c.process
      · rw [hp, hself] at hof
        rw [hp]
        exact outstanding_before hm hil hof
      · rwa [hother _ hp] at hof
    rcases getElem?_set_cases hc hd with ⟨rfl, rfl⟩ | ⟨hij, hd₀⟩ <;>
      rcases getElem?_set_cases hc he with ⟨rfl, rfl⟩ | ⟨hik, he₀⟩
    · rfl
    · have hp : e.process = c.process := hproc.symm.trans hm.process
      have hoe' := hold hik hoe
      rw [hp] at hoe'
      exact absurd ⟨hp, hoe'⟩ (hm.fresh k e randomSeq he₀ hik hed hdd).2
    · have hp : d.process = c.process := hproc.trans hm.process
      have hod' := hold hij hod
      rw [hp] at hod'
      exact absurd ⟨hp, hod'⟩ (hm.fresh j d randomSeq hd₀ hij hdd hed).2
    · exact h.apart j k d e randomSeq hd₀ he₀ hdd hed hproc (hold hij hod) (hold hik hoe)
  · intro req hreq
    rw [hcalls]
    rcases hreqs req hreq with hreq | hreq
    · exact hset (h.requests req hreq)
    · exact hset hreq
  · intro p r hr
    rw [hcalls]
    by_cases hp : p = c.process
    · rw [hp, hself] at hr
      exact hset (h.replies c.process r (hm.replies r hr))
    · rw [hother p hp] at hr
      exact hset (h.replies p r hr)
  · intro j d r hd hpc
    rw [hcalls] at hd ⊢
    rcases getElem?_set_cases hc hd with ⟨rfl, rfl⟩ | ⟨-, hd⟩
    · exact hset (hm.received r hpc)
    · exact hset (h.received j d r hd hpc)

end OutstandingRequests
