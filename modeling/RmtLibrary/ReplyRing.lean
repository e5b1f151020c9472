import RmtLibrary.BoundedFifo
import RmtLibrary.DatainfoAgent
import RmtLibrary.GuardedExecution

/-! # The reply ring as a bounded queue

`q_enqueue` with the store into the slot it returns, and `q_dequeue` with the read of the slot it
returns, against a first-in-first-out queue of payloads. -/
namespace ReplyRing

open BoundedFifo (Answer Call)
open DatainfoAgent
open GuardedExecution (runEvents)
open RingQueue (Holds)

/-- What a call returned, with the payload that was stored or read. -/
structure Return where
  qIdx : ℤ
  answer : Answer ReplySlot
  deriving DecidableEq

variable {σ : Type}

structure Ring (σ : Type) where
  agent : AgentState σ
  returns : List Return

def initial (w : σ) : Ring σ := ⟨datainfoAgentInit w, []⟩

/-- A payload is stored, or a slot read, only if the call returned an index. -/
def step (s : Ring σ) : Call ReplySlot → Option (Ring σ)
  | .put slot => do
    let (agent, qIdx) := qEnqueue s.agent
    if qIdx = -1 then some ⟨agent, s.returns ++ [⟨qIdx, .refused slot⟩]⟩
    else
      let agent ← storeReply qIdx slot agent
      some ⟨agent, s.returns ++ [⟨qIdx, .stored slot⟩]⟩
  | .get => do
    let (agent, qIdx) := qDequeue s.agent
    if qIdx = -1 then some ⟨agent, s.returns ++ [⟨qIdx, .nothing⟩]⟩
    else
      let slot ← loadReply qIdx agent
      some ⟨agent, s.returns ++ [⟨qIdx, .taken slot⟩]⟩

def storedAt (returns : List Return) : List (ℤ × ReplySlot) :=
  returns.filterMap fun r => r.answer.stored?.map fun slot => (r.qIdx, slot)

def readAt (returns : List Return) : List (ℤ × ReplySlot) :=
  returns.filterMap fun r => r.answer.taken?.map fun slot => (r.qIdx, slot)

@[simp] theorem storedAt_append (rs rs' : List Return) :
    storedAt (rs ++ rs') = storedAt rs ++ storedAt rs' := List.filterMap_append

@[simp] theorem readAt_append (rs rs' : List Return) :
    readAt (rs ++ rs') = readAt rs ++ readAt rs' := List.filterMap_append

@[simp] theorem storedAt_singleton (r : Return) :
    storedAt [r] = (r.answer.stored?.map fun slot => (r.qIdx, slot)).toList := by
  cases h : r.answer <;> simp [storedAt, h]

@[simp] theorem readAt_singleton (r : Return) :
    readAt [r] = (r.answer.taken?.map fun slot => (r.qIdx, slot)).toList := by
  cases h : r.answer <;> simp [readAt, h]

def slots (s : AgentState σ) (is : List ℕ) : List (ℤ × ReplySlot) :=
  is.map fun i : ℕ => ((i : ℤ), s.datainfoReplys i)

/-- The ring holds the content of the queue and has answered as the queue did. -/
structure Represents (s : Ring σ) (q : BoundedFifo.State ReplySlot) (is : List ℕ) : Prop where
  ring : Holds queueSize s.agent.queue is
  content : is.map s.agent.datainfoReplys = q.content
  answers : s.returns.map Return.answer = q.answers
  indices : ∀ r ∈ s.returns, r.qIdx = -1 ∨ 0 ≤ r.qIdx ∧ r.qIdx < queueSize
  order : storedAt s.returns = readAt s.returns ++ slots s.agent is

theorem represents_initial (w : σ) : Represents (initial w) BoundedFifo.initial [] where
  ring := RingQueue.holds_empty (by decide)
  content := rfl
  answers := rfl
  indices := by simp [initial]
  order := rfl

theorem map_update {β : Type} {f : ℕ → β} {is : List ℕ} {i : ℕ} (hi : i ∉ is) (b : β) :
    is.map (Function.update f i b) = is.map f := by
  apply List.map_congr_left
  intro j hj
  apply Function.update_of_ne
  rintro rfl
  exact hi hj

theorem slots_update {s : AgentState σ} {is : List ℕ} {i : ℕ} (hi : i ∉ is) (slot : ReplySlot) :
    slots { s with datainfoReplys := Function.update s.datainfoReplys i slot } is =
      slots s is := by
  apply List.map_congr_left
  intro j hj
  have hne : j ≠ i := by
    rintro rfl
    exact hi hj
  simp [hne]

variable {s : Ring σ} {q : BoundedFifo.State ReplySlot} {is : List ℕ}

theorem Represents.length (h : Represents s q is) : q.content.length = is.length := by
  rw [← h.content, List.length_map]

theorem Represents.put_full (h : Represents s q is) (hfull : is.length + 1 = queueSize)
    (slot : ReplySlot) : ∃ s', step s (.put slot) = some s' ∧
      Represents s' (BoundedFifo.next (queueSize - 1) q (.put slot)) is := by
  have hq : qEnqueue s.agent = (s.agent, -1) := by
    rw [qEnqueue, h.ring.enqueue_full hfull]
    rfl
  have hnext : BoundedFifo.next (queueSize - 1) q (.put slot) =
      { q with answers := q.answers ++ [.refused slot] } := by
    rw [BoundedFifo.next, if_neg]
    rw [h.length]
    omega
  refine ⟨⟨s.agent, s.returns ++ [⟨-1, .refused slot⟩]⟩, by simp [step, hq], ?_⟩
  rw [hnext]
  constructor
  · exact h.ring
  · exact h.content
  · simp [h.answers]
  · rw [List.forall_mem_append, List.forall_mem_singleton]
    exact ⟨h.indices, Or.inl rfl⟩
  · simp [h.order]

theorem Represents.put_next (h : Represents s q is) (hfree : is.length + 1 < queueSize)
    (slot : ReplySlot) : ∃ s' i, step s (.put slot) = some s' ∧
      Represents s' (BoundedFifo.next (queueSize - 1) q (.put slot)) (is ++ [i]) := by
  obtain ⟨queue, i, hen, hi, hfresh, -, hring⟩ := h.ring.enqueue_next hfree
  have hq : qEnqueue s.agent = ({ s.agent with queue }, (i : ℤ)) := by
    rw [qEnqueue, hen]
    rfl
  have hlt : (i : ℤ) < queueSize := by exact_mod_cast hi
  have hnext : BoundedFifo.next (queueSize - 1) q (.put slot) =
      ⟨q.content ++ [slot], q.answers ++ [.stored slot]⟩ := by
    rw [BoundedFifo.next, if_pos]
    rw [h.length]
    omega
  have hne : (i : ℤ) ≠ -1 := by omega
  refine ⟨⟨{ s.agent with
      queue, datainfoReplys := Function.update s.agent.datainfoReplys i slot },
    s.returns ++ [⟨i, .stored slot⟩]⟩, i, ?_, ?_⟩
  · simp [step, hq, hne, storeReply, hlt]
  rw [hnext]
  constructor
  · exact hring
  · simp [map_update hfresh, h.content]
  · simp [h.answers]
  · rw [List.forall_mem_append, List.forall_mem_singleton]
    exact ⟨h.indices, Or.inr ⟨Int.natCast_nonneg i, hlt⟩⟩
  · have hkeep := slots_update (s := s.agent) hfresh slot
    simp only [slots] at hkeep
    simp [h.order, slots, hkeep]

theorem Represents.get_empty (h : Represents s q []) : ∃ s', step s .get = some s' ∧
    Represents s' (BoundedFifo.next (queueSize - 1) q .get) [] := by
  have hq : qDequeue s.agent = (s.agent, -1) := by
    rw [qDequeue, h.ring.dequeue_empty]
    rfl
  have hnil : q.content = [] := h.content.symm
  refine ⟨⟨s.agent, s.returns ++ [⟨-1, .nothing⟩]⟩, by simp [step, hq], ?_⟩
  simp only [BoundedFifo.next, hnil]
  constructor
  · exact h.ring
  · rfl
  · simp [h.answers]
  · rw [List.forall_mem_append, List.forall_mem_singleton]
    exact ⟨h.indices, Or.inl rfl⟩
  · simp [h.order]

theorem Represents.get_next {i : ℕ} (h : Represents s q (i :: is)) :
    ∃ s', step s .get = some s' ∧
      Represents s' (BoundedFifo.next (queueSize - 1) q .get) is := by
  obtain ⟨queue, hde, hring⟩ := h.ring.dequeue_next
  have hi : i < queueSize := h.ring.lt List.mem_cons_self
  have hlt : (i : ℤ) < queueSize := by exact_mod_cast hi
  have hq : qDequeue s.agent = ({ s.agent with queue }, (i : ℤ)) := by
    rw [qDequeue, hde]
    rfl
  have hne : (i : ℤ) ≠ -1 := by omega
  have hcons : q.content = s.agent.datainfoReplys i :: is.map s.agent.datainfoReplys :=
    h.content.symm
  refine ⟨⟨{ s.agent with queue },
    s.returns ++ [⟨i, .taken (s.agent.datainfoReplys i)⟩]⟩, ?_, ?_⟩
  · simp [step, hq, hne, loadReply, hlt]
  simp only [BoundedFifo.next, hcons]
  constructor
  · exact hring
  · rfl
  · simp [h.answers]
  · rw [List.forall_mem_append, List.forall_mem_singleton]
    exact ⟨h.indices, Or.inr ⟨Int.natCast_nonneg i, hlt⟩⟩
  · simp [h.order, slots]

theorem Represents.step (h : Represents s q is) (c : Call ReplySlot) :
    ∃ s' is', ReplyRing.step s c = some s' ∧
      Represents s' (BoundedFifo.next (queueSize - 1) q c) is' := by
  cases c with
  | put slot =>
    have hfits := h.ring.fits
    by_cases hfull : is.length + 1 = queueSize
    · obtain ⟨s', hs, h'⟩ := h.put_full hfull slot
      exact ⟨s', is, hs, h'⟩
    · obtain ⟨s', i, hs, h'⟩ := h.put_next (by omega) slot
      exact ⟨s', is ++ [i], hs, h'⟩
  | get =>
    cases is with
    | nil =>
      obtain ⟨s', hs, h'⟩ := h.get_empty
      exact ⟨s', [], hs, h'⟩
    | cons i is =>
      obtain ⟨s', hs, h'⟩ := h.get_next
      exact ⟨s', is, hs, h'⟩

theorem represents_run (w : σ) (calls : List (Call ReplySlot)) :
    ∃ s is, runEvents ReplyRing.step (initial w) calls = some s ∧
      Represents s (BoundedFifo.run (queueSize - 1) calls) is := by
  have hrun : ∀ (s : Ring σ) q is, Represents s q is →
      ∃ s' is', runEvents ReplyRing.step s calls = some s' ∧
        Represents s' (calls.foldl (BoundedFifo.next (queueSize - 1)) q) is' := by
    induction calls with
    | nil => exact fun s q is h => ⟨s, is, rfl, h⟩
    | cons c calls ih =>
      intro s q is h
      obtain ⟨t, js, hs, ht⟩ := h.step c
      obtain ⟨s', is', hs', h'⟩ := ih t _ js ht
      exact ⟨s', is', by simp only [runEvents, hs, Option.bind_some, hs'], h'⟩
  exact hrun _ _ _ (represents_initial w)

theorem Represents.qEnqueue_iff (h : Represents s q is) :
    (qEnqueue s.agent).2 = -1 ↔ is.length = queueSize - 1 := by
  have hfits := h.ring.fits
  by_cases hfull : is.length + 1 = queueSize
  · have hq : (qEnqueue s.agent).2 = -1 := by
      rw [qEnqueue, h.ring.enqueue_full hfull]
      rfl
    simp only [hq, true_iff]
    omega
  · obtain ⟨queue, i, hen, -⟩ := h.ring.enqueue_next (by omega)
    have hq : (qEnqueue s.agent).2 = i := by
      rw [qEnqueue, hen]
      rfl
    rw [hq]
    omega

theorem Represents.qDequeue_iff (h : Represents s q is) :
    (qDequeue s.agent).2 = -1 ↔ is = [] := by
  cases is with
  | nil =>
    have hq : (qDequeue s.agent).2 = -1 := by
      rw [qDequeue, h.ring.dequeue_empty]
      rfl
    simp [hq]
  | cons i is =>
    obtain ⟨queue, hde, -⟩ := h.ring.dequeue_next
    have hq : (qDequeue s.agent).2 = i := by
      rw [qDequeue, hde]
      rfl
    simp [hq]

theorem Represents.loadReply (h : Represents s q is) :
    ∀ e ∈ slots s.agent is, DatainfoAgent.loadReply e.1 s.agent = some e.2 := by
  intro e he
  obtain ⟨i, hi, rfl⟩ := List.mem_map.mp he
  have hlt : (i : ℤ) < queueSize := by exact_mod_cast h.ring.lt hi
  simp [DatainfoAgent.loadReply, hlt]

/-- Every run of the ring answers as the queue of capacity `QUEUE_SIZE - 1` does. What was stored
and not yet read is still in the slot it was stored in. -/
theorem ring_refines_fifo (w : σ) (calls : List (Call ReplySlot)) :
    ∃ s pending, runEvents ReplyRing.step (initial w) calls = some s ∧
      s.returns.map Return.answer = (BoundedFifo.run (queueSize - 1) calls).answers ∧
      (∀ r ∈ s.returns, r.qIdx = -1 ∨ 0 ≤ r.qIdx ∧ r.qIdx ≤ 15) ∧
      storedAt s.returns = readAt s.returns ++ pending ∧
      pending.map Prod.snd = (BoundedFifo.run (queueSize - 1) calls).content ∧
      pending.length ≤ queueSize - 1 ∧
      (∀ e ∈ pending, loadReply e.1 s.agent = some e.2) ∧
      ((qEnqueue s.agent).2 = -1 ↔ pending.length = queueSize - 1) ∧
      ((qDequeue s.agent).2 = -1 ↔ pending = []) := by
  obtain ⟨s, is, hs, h⟩ := represents_run w calls
  refine ⟨s, slots s.agent is, hs, h.answers, ?_, h.order, ?_, ?_, h.loadReply, ?_, ?_⟩
  · intro r hr
    have hidx := h.indices r hr
    simp only [queueSize] at hidx
    omega
  · rw [← h.content]
    simp [slots]
  · rw [slots, List.length_map]
    have hbound := BoundedFifo.length_run_le (queueSize - 1) calls
    rwa [h.length] at hbound
  · rw [h.qEnqueue_iff, slots, List.length_map]
  · rw [h.qDequeue_iff, slots, List.map_eq_nil_iff]

end ReplyRing
