import RmtLibrary.DdsTransport
import RmtLibrary.DeviceCallbacks

/-! # Devices of lost writers

The DeviceInfo reader between the agents and the registry. A drain takes a sample with `dds_take`
and then calls `add_device` on it. A loss is noted by a callback that runs later, in a thread of
its own, so that it can come in between. -/
namespace GhostDevices

open DdsTransport (Sample)
open DeviceCallbacks
open DevinfoServer
open GuardedExecution

structure Announcement where
  handle : ℕ
  msg : Idl.DeviceInfoMsg
  deriving DecidableEq

/-- A listener callback that is due. `others` counts the other writers that are not alive. -/
inductive LossCallback where
  | unmatched (handle : ℕ)
  | notAlive (handle others : ℕ)
  deriving DecidableEq

def LossCallback.handle : LossCallback → ℕ
  | .unmatched handle => handle
  | .notAlive handle _ => handle

def LossCallback.run (s : Registry) : LossCallback → Option Registry
  | .unmatched handle => callbackSubscriptionMatched (-1) handle s
  | .notAlive handle others => callbackLivelinessChanged (others + 1) handle s

/-- `held` has the samples that were taken and not yet passed to `add_device`, one for each
thread inside a drain. -/
structure State where
  registry : Registry
  reader : List (Sample Announcement)
  held : List Announcement
  live : Finset ℕ
  lost : Finset ℕ
  due : List LossCallback

def initial : State := ⟨devinfoServerInit, [], [], ∅, ∅, []⟩

/-- With history `KEEP_LAST` an announcement replaces older samples of its device. A loss may
leave a sample without valid data. -/
inductive Event where
  | appear (handle : ℕ)
  | announce (handle : ℕ) (msg : Idl.DeviceInfoMsg) (keepLast : Bool)
  | lose (callback : LossCallback) (notice : Option Idl.DeviceInfoMsg)
  | callback (i : ℕ)
  | take (i : ℕ)
  | add (i : ℕ) (chunk : Chunk)

/-- Every announcement of a writer is for the device that `deviceOf` gives it. -/
def announcement (deviceOf : ℕ → ℕ) (handle : ℕ) (msg : Idl.DeviceInfoMsg) : Announcement :=
  ⟨handle, { msg with deviceID := deviceOf handle }⟩

def sameDevice (a : Announcement) (sample : Sample Announcement) : Bool :=
  sample.data.msg.deviceID == a.msg.deviceID

def arrive (a : Announcement) (keepLast : Bool) (reader : List (Sample Announcement)) :
    List (Sample Announcement) :=
  (if keepLast then reader.filter fun sample => !sameDevice a sample else reader) ++ [⟨true, a⟩]

/-- A writer that lost its liveliness may be unmatched later, and one that comes back is not
lost any more. -/
def step (deviceOf : ℕ → ℕ) (s : State) : Event → Option State
  | .appear h =>
    if h ∈ s.live then none
    else some { s with live := insert h s.live, lost := s.lost.erase h }
  | .announce h msg keepLast =>
    if h ∈ s.live then
      some { s with reader := arrive (announcement deviceOf h msg) keepLast s.reader }
    else none
  | .lose c notice =>
    if c.handle ∈ s.live ∨ c.handle ∈ s.lost then
      some { s with
        reader := s.reader ++
          notice.toList.map fun msg => ⟨false, announcement deviceOf c.handle msg⟩
        live := s.live.erase c.handle
        lost := insert c.handle s.lost
        due := s.due ++ [c] }
    else none
  | .callback i => do
    let c ← s.due[i]?
    let registry ← c.run s.registry
    some { s with registry, due := s.due.eraseIdx i }
  | .take i => do
    let sample ← s.reader[i]?
    let s := { s with reader := s.reader.eraseIdx i }
    if sample.validData then some { s with held := s.held ++ [sample.data] } else some s
  | .add i chunk => do
    let a ← s.held[i]?
    let registry ← addDevice chunk a.msg a.handle s.registry
    some { s with registry, held := s.held.eraseIdx i }

def Settled (s : State) : Prop := s.reader = [] ∧ s.due = []

def NoGhosts (s : State) : Prop :=
  ∃ t, devices s.registry = some t ∧ ∀ dev ∈ t, dev.internalId ∉ s.lost

/-- All loss callbacks of a lost writer have run. -/
def Forgotten (s : State) (handle : ℕ) : Prop :=
  handle ∈ s.lost ∧ ∀ c ∈ s.due, c.handle ≠ handle

/-- No announcement reaches `add_device` behind the loss callbacks of its writer. -/
def InTime (s : State) : Event → Prop
  | .add i _ => ∀ a ∈ s.held[i]?, ¬ Forgotten s a.handle
  | _ => True

instance (s : State) (handle : ℕ) : Decidable (Forgotten s handle) :=
  inferInstanceAs (Decidable (_ ∧ ∀ _ ∈ _, _))

instance (s : State) : Decidable (Settled s) :=
  match s with
  | ⟨_, [], _, _, _, []⟩ => isTrue ⟨rfl, rfl⟩
  | ⟨_, _ :: _, _, _, _, _⟩ => isFalse fun h => nomatch h.1
  | ⟨_, _, _, _, _, _ :: _⟩ => isFalse fun h => nomatch h.2

instance (s : State) : (e : Event) → Decidable (InTime s e)
  | .add _ _ => inferInstanceAs (Decidable (∀ _ ∈ _, _))
  | .appear _ => inferInstanceAs (Decidable True)
  | .announce .. => inferInstanceAs (Decidable True)
  | .lose .. => inferInstanceAs (Decidable True)
  | .callback _ => inferInstanceAs (Decidable True)
  | .take _ => inferInstanceAs (Decidable True)

/-- Announcements carry the ID of their writer's device, and no entry is left of a writer whose
loss callbacks have run. -/
structure Invariant (deviceOf : ℕ → ℕ) (s : State) : Prop where
  waiting : ∀ sample ∈ s.reader, deviceOf sample.data.handle = sample.data.msg.deviceID
  held : ∀ a ∈ s.held, deviceOf a.handle = a.msg.deviceID
  entries : ∃ handles, Registered deviceOf s.registry handles ∧ ∀ h ∈ handles, ¬ Forgotten s h

variable {deviceOf : ℕ → ℕ} {s t : State}

theorem invariant_initial (deviceOf : ℕ → ℕ) : Invariant deviceOf initial := by
  refine ⟨?_, ?_, ∅, registered_init deviceOf, ?_⟩ <;> simp [initial]

theorem mem_arrive {a : Announcement} {keepLast : Bool} {reader : List (Sample Announcement)}
    {sample : Sample Announcement} (h : sample ∈ arrive a keepLast reader) :
    sample ∈ reader ∨ sample = ⟨true, a⟩ := by
  rcases List.mem_append.mp h with h | h
  · split at h
    · exact Or.inl (List.mem_of_mem_filter h)
    · exact Or.inl h
  · exact Or.inr (List.mem_singleton.mp h)

theorem forgotten_of_lose {c : LossCallback} {h : ℕ} {reader : List (Sample Announcement)}
    (hf : Forgotten { s with
      reader, live := s.live.erase c.handle, lost := insert c.handle s.lost,
      due := s.due ++ [c] } h) : Forgotten s h := by
  obtain ⟨hl, hdue⟩ := hf
  have hne : h ≠ c.handle := (hdue c (by simp)).symm
  refine ⟨Finset.mem_of_mem_insert_of_ne hl hne, ?_⟩
  intro c' hc'
  exact hdue c' (List.mem_append_left _ hc')

theorem forgotten_of_callback {i : ℕ} {c : LossCallback} {h : ℕ} {registry : Registry}
    (hc : s.due[i]? = some c) (hne : h ≠ c.handle)
    (hf : Forgotten { s with registry, due := s.due.eraseIdx i } h) : Forgotten s h := by
  refine ⟨hf.1, ?_⟩
  intro c' hc'
  obtain ⟨j, hj⟩ := List.mem_iff_getElem?.mp hc'
  by_cases hij : j = i
  · obtain rfl : c = c' := Option.some.inj (hc.symm.trans (hij ▸ hj))
    exact hne.symm
  · exact hf.2 c' (List.mem_eraseIdx_iff_getElem?.mpr ⟨j, hij, hj⟩)

theorem LossCallback.run_registered {registry : Registry} {handles : Set ℕ}
    (hr : Registered deviceOf registry handles) (c : LossCallback) :
    ∃ registry', c.run registry = some registry' ∧
      Registered deviceOf registry' (handles \ {c.handle}) := by
  cases c with
  | unmatched h => exact hr.unmatched h
  | notAlive h others => exact hr.livelinessChanged (others + 1) h

theorem invariant_callback (hi : Invariant deviceOf s) {i : ℕ}
    (hs : step deviceOf s (.callback i) = some t) : Invariant deviceOf t := by
  obtain ⟨handles, hr, hsafe⟩ := hi.entries
  obtain ⟨c, hc, hs⟩ := Option.bind_eq_some_iff.mp hs
  obtain ⟨registry, hrun, hr'⟩ := c.run_registered hr
  simp only [hrun, Option.bind_eq_bind, Option.bind_some, Option.some.injEq] at hs
  subst hs
  refine ⟨hi.waiting, hi.held, _, hr', ?_⟩
  rintro h ⟨hh, hne⟩ hf
  exact hsafe h hh (forgotten_of_callback hc hne hf)

theorem invariant_take (hi : Invariant deviceOf s) {i : ℕ}
    (hs : step deviceOf s (.take i) = some t) : Invariant deviceOf t := by
  obtain ⟨sample, hsample, hs⟩ := Option.bind_eq_some_iff.mp hs
  have hwait : ∀ sample' ∈ s.reader.eraseIdx i,
      deviceOf sample'.data.handle = sample'.data.msg.deviceID := by
    intro sample' hm
    exact hi.waiting sample' (List.mem_of_mem_eraseIdx hm)
  by_cases hv : sample.validData
  · simp only [hv, if_true, Option.some.injEq] at hs
    subst hs
    refine ⟨hwait, ?_, hi.entries⟩
    intro a ha
    rcases List.mem_append.mp ha with ha | ha
    · exact hi.held a ha
    · obtain rfl := List.mem_singleton.mp ha
      exact hi.waiting sample (List.mem_of_getElem? hsample)
  · simp only [hv, if_false, Option.some.injEq, Bool.false_eq_true] at hs
    subst hs
    exact ⟨hwait, hi.held, hi.entries⟩

theorem invariant_add (hi : Invariant deviceOf s) {i : ℕ} {chunk : Chunk}
    (hok : InTime s (.add i chunk)) (hs : step deviceOf s (.add i chunk) = some t) :
    Invariant deviceOf t := by
  obtain ⟨handles, hr, hsafe⟩ := hi.entries
  obtain ⟨a, ha, hs⟩ := Option.bind_eq_some_iff.mp hs
  obtain ⟨registry, hadd, hr'⟩ := hr.add chunk (hi.held a (List.mem_of_getElem? ha))
  simp only [hadd, Option.bind_eq_bind, Option.bind_some, Option.some.injEq] at hs
  subst hs
  refine ⟨hi.waiting, ?_, _, hr', ?_⟩
  · intro a' ha'
    exact hi.held a' (List.mem_of_mem_eraseIdx ha')
  · intro h hh
    rcases Set.mem_insert_iff.mp hh with rfl | hh
    · exact hok a ha
    · exact hsafe h hh.1

theorem invariant_step {e : Event} (hi : Invariant deviceOf s) (hok : InTime s e)
    (hs : step deviceOf s e = some t) : Invariant deviceOf t := by
  obtain ⟨handles, hr, hsafe⟩ := hi.entries
  cases e with
  | appear h =>
    by_cases hl : h ∈ s.live
    · simp [step, hl] at hs
    · simp only [step, if_neg hl, Option.some.injEq] at hs
      subst hs
      refine ⟨hi.waiting, hi.held, handles, hr, ?_⟩
      intro h' hh' hf
      exact hsafe h' hh' ⟨Finset.mem_of_mem_erase hf.1, hf.2⟩
  | announce h msg keepLast =>
    by_cases hl : h ∈ s.live
    · simp only [step, if_pos hl, Option.some.injEq] at hs
      subst hs
      refine ⟨?_, hi.held, handles, hr, hsafe⟩
      intro sample hm
      rcases mem_arrive hm with hm | rfl
      · exact hi.waiting sample hm
      · rfl
    · simp [step, hl] at hs
  | lose c notice =>
    by_cases hl : c.handle ∈ s.live ∨ c.handle ∈ s.lost
    · simp only [step, if_pos hl, Option.some.injEq] at hs
      subst hs
      refine ⟨?_, hi.held, handles, hr, ?_⟩
      · intro sample hm
        rcases List.mem_append.mp hm with hm | hm
        · exact hi.waiting sample hm
        · obtain ⟨msg, -, rfl⟩ := List.mem_map.mp hm
          rfl
      · intro h hh hf
        exact hsafe h hh (forgotten_of_lose hf)
    · simp only [step, if_neg hl] at hs
      cases hs
  | callback i => exact invariant_callback hi hs
  | take i => exact invariant_take hi hs
  | add i chunk => exact invariant_add hi hok hs

theorem invariant_execution (h : Execution (step deviceOf) InTime initial s) :
    Invariant deviceOf s :=
  h.invariant (invariant_initial deviceOf) fun _ _ _ hi hok hs => invariant_step hi hok hs

/-- While no announcement reaches `add_device` behind the loss callbacks of its writer, every
settled state has a registry without ghosts. -/
theorem no_ghost_devices (h : Execution (step deviceOf) InTime initial s) (hs : Settled s) :
    NoGhosts s := by
  obtain ⟨handles, hr, hsafe⟩ := (invariant_execution h).entries
  obtain ⟨t, ht, hsub, -⟩ := hr.walk
  refine ⟨t, ht, ?_⟩
  intro dev hd hlost
  refine hsafe dev.internalId (hsub dev hd).1 ⟨hlost, ?_⟩
  simp [hs.2]

/-- Outside the condition the entry of a forgotten writer is there at once. -/
theorem late_add_makes_ghost (hi : Invariant deviceOf s) {i : ℕ} {chunk : Chunk}
    (hlate : ¬ InTime s (.add i chunk)) :
    ∃ t devs, step deviceOf s (.add i chunk) = some t ∧ devices t.registry = some devs ∧
      ∃ dev ∈ devs, Forgotten t dev.internalId := by
  simp only [InTime, Option.mem_def, not_forall, not_not] at hlate
  obtain ⟨a, ha, hf⟩ := hlate
  obtain ⟨handles, hr, -⟩ := hi.entries
  obtain ⟨registry, hadd, hr'⟩ := hr.add chunk (hi.held a (List.mem_of_getElem? ha))
  obtain ⟨devs, hdevs, -, hsup⟩ := hr'.walk
  obtain ⟨dev, hd, hid⟩ := hsup a.handle (Set.mem_insert _ _)
  refine ⟨{ s with registry, held := s.held.eraseIdx i }, devs, ?_, hdevs, dev, hd, hid ▸ hf⟩
  simp [step, ha, hadd]

def chunk : Chunk := ⟨HeapChain.Malloc.bump, .done, emptyResult⟩

def noText : Idl.DeviceInfoMsg := ⟨0, [], [], [], [], [], []⟩

theorem no_ghost_devices_seen : ∃ s, Settled s ∧ NoGhosts s := by
  obtain ⟨s, -, hex, hs⟩ := exists_execution (step id) InTime initial Settled
    [.appear 1, .announce 1 noText true, .take 0, .add 0 chunk, .lose (.unmatched 1) none,
      .callback 0] (by decide)
  exact ⟨s, hs, no_ghost_devices hex hs⟩

/-- An agent announces itself and goes away before the server polls. The loss finds nothing to
delete, and the poll then adds the device for good. -/
theorem ghost_device_added : ∃ s, Reachable (step id) initial s ∧ Settled s ∧
    ∃ dev ∈ (devices s.registry).getD [], dev.internalId ∈ s.lost := by
  refine exists_reachable _ [.appear 1, .announce 1 noText true, .lose (.unmatched 1) none,
    .callback 0, .take 0, .add 0 chunk] (by decide)

end GhostDevices
