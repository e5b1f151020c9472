import RmtLibrary.DeviceCallbacks

/-! # Whether live devices stay registered

The writers of the agents as the DeviceInfo reader sees them. The listener callbacks get the
status fields of DDS: `not_alive_count` counts the writers that are not alive after the event,
and the handle is that of the writer whose change triggered the callback. -/
namespace LiveDevices

open GuardedExecution
open DevinfoServer
open DeviceCallbacks

/-- The matched writers, those whose announcement was taken since they were matched, and those
whose announcement was taken since they last stopped being alive. -/
structure Writers where
  alive : Finset ℕ
  notAlive : Finset ℕ
  taken : Finset ℕ
  again : Finset ℕ

inductive Event where
  | matched (h : ℕ)
  | taken (h : ℕ) (chunk : Chunk) (msg : Idl.DeviceInfoMsg)
  | notAlive (h : ℕ)
  | aliveAgain (h : ℕ)
  | unmatched (h : ℕ)

def Writers.Possible (w : Writers) : Event → Prop
  | .matched h => h ∉ w.alive ∧ h ∉ w.notAlive
  | .taken .. => True
  | .notAlive h => h ∈ w.alive
  | .aliveAgain h => h ∈ w.notAlive
  | .unmatched h => h ∈ w.alive ∨ h ∈ w.notAlive

instance (w : Writers) : (e : Event) → Decidable (w.Possible e)
  | .matched _ => inferInstanceAs (Decidable (_ ∧ _))
  | .taken .. => inferInstanceAs (Decidable True)
  | .notAlive _ => inferInstanceAs (Decidable (_ ∈ _))
  | .aliveAgain _ => inferInstanceAs (Decidable (_ ∈ _))
  | .unmatched _ => inferInstanceAs (Decidable (_ ∨ _))

@[simp] def Writers.after (w : Writers) : Event → Writers
  | .matched h => { w with alive := insert h w.alive, taken := w.taken.erase h }
  | .taken h _ _ => { w with taken := insert h w.taken, again := insert h w.again }
  | .notAlive h =>
    { w with
      alive := w.alive.erase h, notAlive := insert h w.notAlive, again := w.again.erase h }
  | .aliveAgain h => { w with alive := insert h w.alive, notAlive := w.notAlive.erase h }
  | .unmatched h => { w with alive := w.alive.erase h, notAlive := w.notAlive.erase h }

def Writers.next (w : Writers) (e : Event) : Writers := if w.Possible e then w.after e else w

structure Reader where
  registry : Registry
  writers : Writers

def initial : Reader := ⟨devinfoServerInit, ⟨∅, ∅, ∅, ∅⟩⟩

def react (deviceOf : ℕ → ℕ) (w : Writers) (s : Registry) : Event → Option Registry
  | .matched h => do
    let s ← callbackSubscriptionMatched 1 h s
    callbackLivelinessChanged w.notAlive.card h s
  | .taken h chunk msg => addDevice chunk { msg with deviceID := deviceOf h } h s
  | .notAlive h => callbackLivelinessChanged w.notAlive.card h s
  | .aliveAgain h => callbackLivelinessChanged w.notAlive.card h s
  | .unmatched h => do
    let s ← callbackSubscriptionMatched (-1) h s
    callbackLivelinessChanged w.notAlive.card h s

def step (deviceOf : ℕ → ℕ) (s : Reader) (e : Event) : Option Reader :=
  if s.writers.Possible e then
    (react deviceOf (s.writers.next e) s.registry e).map (⟨·, s.writers.next e⟩)
  else some s

/-- Each device whose writer is matched and alive and whose announcement was taken is found by
walking the registry. -/
def KeepsLive (deviceOf : ℕ → ℕ) (s : Reader) : Prop :=
  ∃ t, devices s.registry = some t ∧
    ∀ h ∈ s.writers.alive ∩ s.writers.taken, ∃ dev ∈ t, dev.info.deviceID = deviceOf h

def Good (deviceOf : ℕ → ℕ) (s : Reader) (e : Event) : Prop :=
  ∃ s', step deviceOf s e = some s' ∧ KeepsLive deviceOf s'

/-- A writer that was taken becomes alive again only after its announcement was taken again,
and only when no other writer is not alive. -/
def Writers.Recovers (w : Writers) : Event → Prop
  | .aliveAgain h =>
    h ∈ w.notAlive → h ∈ w.taken → h ∈ w.again ∧ w.notAlive.erase h = ∅
  | _ => True

instance (w : Writers) : (e : Event) → Decidable (w.Recovers e)
  | .aliveAgain _ => inferInstanceAs (Decidable (_ → _ → _ ∧ _))
  | .matched _ => inferInstanceAs (Decidable True)
  | .taken .. => inferInstanceAs (Decidable True)
  | .notAlive _ => inferInstanceAs (Decidable True)
  | .unmatched _ => inferInstanceAs (Decidable True)

def Writers.handlesAfter (w : Writers) (handles : Set ℕ) : Event → Set ℕ
  | .matched h => if w.notAlive.card = 0 then handles else handles \ {h}
  | .taken h _ _ => insert h handles
  | .notAlive h => handles \ {h}
  | .aliveAgain h => if w.notAlive.card = 0 then handles else handles \ {h}
  | .unmatched h => handles \ {h}

variable {deviceOf : ℕ ↪ ℕ} {s : Reader} {w : Writers} {handles : Set ℕ} {e : Event}

theorem react_registered {registry : Registry} (hr : Registered deviceOf registry handles)
    (hpos : ∀ h, e = .notAlive h → w.notAlive.card ≠ 0) :
    ∃ registry', react deviceOf w registry e = some registry' ∧
      Registered deviceOf registry' (w.handlesAfter handles e) := by
  cases e with
  | matched h =>
    obtain ⟨s₁, h₁, hr₁⟩ := hr.livelinessChanged w.notAlive.card h
    exact ⟨s₁, h₁, hr₁⟩
  | taken h chunk msg =>
    have hmsg :
        deviceOf h = ({ msg with deviceID := deviceOf h } : Idl.DeviceInfoMsg).deviceID := rfl
    obtain ⟨s₁, h₁, hr₁⟩ := hr.add chunk hmsg
    refine ⟨s₁, h₁, ?_⟩
    have hsame : insert h {h' ∈ handles | deviceOf h' ≠ deviceOf h} = insert h handles := by
      ext h'
      by_cases he : h' = h <;> simp [he]
    rwa [hsame] at hr₁
  | notAlive h =>
    obtain ⟨s₁, h₁, hr₁⟩ := hr.livelinessChanged w.notAlive.card h
    rw [if_neg (hpos h rfl)] at hr₁
    exact ⟨s₁, h₁, hr₁⟩
  | aliveAgain h =>
    obtain ⟨s₁, h₁, hr₁⟩ := hr.livelinessChanged w.notAlive.card h
    exact ⟨s₁, h₁, hr₁⟩
  | unmatched h =>
    obtain ⟨s₁, h₁, hr₁⟩ := hr.unmatched h
    obtain ⟨s₂, h₂, hr₂⟩ := hr₁.livelinessChanged w.notAlive.card h
    refine ⟨s₂, by simp [react, h₁, h₂], ?_⟩
    simpa [Writers.handlesAfter] using hr₂

theorem step_registered (hr : Registered deviceOf s.registry handles)
    (he : s.writers.Possible e) :
    ∃ s', step deviceOf s e = some s' ∧ s'.writers = s.writers.next e ∧
      Registered deviceOf s'.registry ((s.writers.next e).handlesAfter handles e) := by
  have hpos : ∀ h, e = .notAlive h → (s.writers.next e).notAlive.card ≠ 0 := by
    rintro h rfl
    simp [Writers.next, he, Writers.after]
  obtain ⟨registry, hreact, hr'⟩ := react_registered hr hpos
  exact ⟨⟨registry, s.writers.next e⟩, by simp [step, he, hreact], rfl, hr'⟩

theorem keepsLive_iff (hr : Registered deviceOf s.registry handles) :
    KeepsLive deviceOf s ↔ ∀ h ∈ s.writers.alive ∩ s.writers.taken, h ∈ handles := by
  obtain ⟨t, ht, hsub, hsup⟩ := hr.walk
  constructor
  · rintro ⟨t', ht', hkeep⟩ h hh
    obtain rfl : t = t' := Option.some.inj (ht.symm.trans ht')
    obtain ⟨dev, hd, hid⟩ := hkeep h hh
    obtain ⟨hmem, hdev⟩ := hsub dev hd
    have hsame : dev.internalId = h := deviceOf.injective (hdev.symm.trans hid)
    exact hsame ▸ hmem
  · intro hkeep
    refine ⟨t, ht, ?_⟩
    intro h hh
    obtain ⟨dev, hd, rfl⟩ := hsup h (hkeep h hh)
    exact ⟨dev, hd, (hsub dev hd).2⟩

/-- While the condition has held, the live writers are registered, and of the others those whose
announcement was taken since. -/
structure Tracks (w : Writers) (handles : Set ℕ) : Prop where
  live : ∀ h ∈ w.alive ∩ w.taken, h ∈ handles
  lost : ∀ h ∈ w.notAlive, h ∈ handles ↔ h ∈ w.again
  apart : ∀ h ∈ w.alive, h ∉ w.notAlive

theorem tracks_initial : Tracks initial.writers ∅ := by
  constructor <;> simp [initial]

theorem Tracks.live_of_alive (ht : Tracks w handles) {h h' : ℕ} (ha : h ∈ w.alive)
    (hta : h ∈ w.taken) (hne : h ≠ h') : h ∈ handles \ {h'} :=
  ⟨ht.live h (Finset.mem_inter.mpr ⟨ha, hta⟩), hne⟩

/-- A recovery is the one event at which a live device can be missing. -/
theorem Tracks.live_iff_recovers (ht : Tracks w handles) (he : w.Possible e) :
    (∀ h ∈ (w.next e).alive ∩ (w.next e).taken, h ∈ (w.next e).handlesAfter handles e) ↔
      w.Recovers e := by
  rw [Writers.next, if_pos he]
  cases e with
  | matched h =>
    refine iff_of_true ?_ trivial
    intro h' hh'
    simp only [Writers.after, Finset.mem_inter, Finset.mem_insert, Finset.mem_erase] at hh'
    obtain ⟨ha, hne, hta⟩ := hh'
    have hmem := ht.live_of_alive (ha.resolve_left hne) hta hne
    by_cases hn : w.notAlive.card = 0
    · simpa [Writers.handlesAfter, hn] using hmem.1
    · simpa [Writers.handlesAfter, hn] using hmem
  | taken h chunk msg =>
    refine iff_of_true ?_ trivial
    intro h' hh'
    simp only [Writers.after, Finset.mem_inter, Finset.mem_insert] at hh'
    obtain ⟨ha, rfl | hta⟩ := hh'
    · exact Set.mem_insert _ _
    · exact Set.mem_insert_of_mem _ (ht.live h' (Finset.mem_inter.mpr ⟨ha, hta⟩))
  | notAlive h | unmatched h =>
    refine iff_of_true ?_ trivial
    intro h' hh'
    simp only [Writers.after, Finset.mem_inter, Finset.mem_erase] at hh'
    exact ht.live_of_alive hh'.1.2 hh'.2 hh'.1.1
  | aliveAgain h =>
    have hlost : h ∈ w.notAlive := he
    have hother : ∀ h' ∈ w.alive, h' ≠ h := by
      rintro h' ha rfl
      exact ht.apart h' ha hlost
    simp only [Writers.after, Writers.handlesAfter, Writers.Recovers, Finset.mem_inter,
      Finset.mem_insert, Finset.card_eq_zero]
    constructor
    · intro hkeep _ hta
      have hmem := hkeep h ⟨Or.inl rfl, hta⟩
      by_cases hn : w.notAlive.erase h = ∅
      · rw [if_pos hn] at hmem
        exact ⟨(ht.lost h hlost).mp hmem, hn⟩
      · rw [if_neg hn] at hmem
        exact absurd rfl hmem.2
    · rintro hok h' ⟨rfl | ha, hta⟩
      · obtain ⟨hagain, hn⟩ := hok hlost hta
        rw [if_pos hn]
        exact (ht.lost h' hlost).mpr hagain
      · have hmem := ht.live_of_alive ha hta (hother h' ha)
        split
        · exact hmem.1
        · exact hmem

theorem Tracks.lost_of_ne (ht : Tracks w handles) {h h' : ℕ} (hl : h ∈ w.notAlive)
    (hne : h ≠ h') : h ∈ handles \ {h'} ↔ h ∈ w.again := by
  rw [← ht.lost h hl]
  exact and_iff_left hne

theorem Tracks.next (ht : Tracks w handles) (he : w.Possible e) (hok : w.Recovers e) :
    Tracks (w.next e) ((w.next e).handlesAfter handles e) := by
  refine ⟨(ht.live_iff_recovers he).mpr hok, ?_, ?_⟩
  · rw [Writers.next, if_pos he]
    cases e with
    | matched h =>
      intro h' hl
      have hne : h' ≠ h := by
        rintro rfl
        exact he.2 hl
      simp only [Writers.handlesAfter]
      split
      · exact ht.lost h' hl
      · exact ht.lost_of_ne hl hne
    | taken h chunk msg =>
      intro h' hl
      simp only [Writers.after, Writers.handlesAfter, Set.mem_insert_iff, Finset.mem_insert]
      exact or_congr Iff.rfl (ht.lost h' hl)
    | notAlive h =>
      intro h' hl
      by_cases hne : h' = h
      · simp [Writers.handlesAfter, hne]
      · have hl' : h' ∈ w.notAlive := by simpa [hne] using hl
        simpa [Writers.handlesAfter, hne] using ht.lost h' hl'
    | aliveAgain h =>
      intro h' hl
      obtain ⟨hne, hl'⟩ := Finset.mem_erase.mp hl
      simp only [Writers.handlesAfter]
      split
      · exact ht.lost h' hl'
      · exact ht.lost_of_ne hl' hne
    | unmatched h =>
      intro h' hl
      obtain ⟨hne, hl'⟩ := Finset.mem_erase.mp hl
      exact ht.lost_of_ne hl' hne
  · rw [Writers.next, if_pos he]
    cases e with
    | matched h =>
      intro h' ha
      rcases Finset.mem_insert.mp ha with rfl | ha
      · exact he.2
      · exact ht.apart h' ha
    | taken h chunk msg => exact ht.apart
    | notAlive h =>
      intro h' ha
      obtain ⟨hne, ha⟩ := Finset.mem_erase.mp ha
      simpa [hne] using ht.apart h' ha
    | aliveAgain h =>
      intro h' ha
      rcases Finset.mem_insert.mp ha with rfl | ha
      · exact Finset.notMem_erase _ _
      · exact fun hl => ht.apart h' ha (Finset.mem_of_mem_erase hl)
    | unmatched h =>
      intro h' ha hl
      exact ht.apart h' (Finset.mem_of_mem_erase ha) (Finset.mem_of_mem_erase hl)

structure Follows (deviceOf : ℕ → ℕ) (s : Reader) (w : Writers) : Prop where
  writers : s.writers = w
  registry : ∃ handles, Registered deviceOf s.registry handles ∧ Tracks w handles

theorem follows_initial (deviceOf : ℕ → ℕ) : Follows deviceOf initial initial.writers :=
  ⟨rfl, ∅, registered_init deviceOf, tracks_initial⟩

theorem Follows.recovers_of_impossible (he : ¬ w.Possible e) : w.Recovers e := by
  cases e with
  | aliveAgain h => exact fun hl => absurd hl he
  | matched h => trivial
  | taken h chunk msg => trivial
  | notAlive h => trivial
  | unmatched h => trivial

theorem Follows.good_iff (h : Follows deviceOf s w) : Good deviceOf s e ↔ w.Recovers e := by
  obtain ⟨rfl, handles, hr, ht⟩ := h
  by_cases he : s.writers.Possible e
  · obtain ⟨s', hs', hw, hr'⟩ := step_registered hr he
    rw [← ht.live_iff_recovers he, ← hw, ← keepsLive_iff (hw ▸ hr')]
    constructor
    · rintro ⟨u, hu, hkeep⟩
      obtain rfl : s' = u := Option.some.inj (hs'.symm.trans hu)
      exact hkeep
    · intro hkeep
      exact ⟨s', hs', hkeep⟩
  · refine iff_of_true ⟨s, by rw [step, if_neg he], ?_⟩ (recovers_of_impossible he)
    exact (keepsLive_iff hr).mpr ht.live

theorem Follows.step (h : Follows deviceOf s w) (hok : w.Recovers e) :
    ∃ s', step deviceOf s e = some s' ∧ Follows deviceOf s' (w.next e) := by
  obtain ⟨rfl, handles, hr, ht⟩ := h
  by_cases he : s.writers.Possible e
  · obtain ⟨s', hs', hw, hr'⟩ := step_registered hr he
    exact ⟨s', hs', hw, _, hr', ht.next he hok⟩
  · have hsame : s.writers.next e = s.writers := by rw [Writers.next, if_neg he]
    refine ⟨s, by rw [LiveDevices.step, if_neg he], ?_⟩
    rw [hsame]
    exact ⟨rfl, handles, hr, ht⟩

/-- After every event of a run no live device is missing, exactly if each writer that becomes
alive again, with its announcement taken before, had it taken again since and was the only one
that was not alive. -/
theorem no_live_device_dropped_iff (deviceOf : ℕ ↪ ℕ) (es : List Event) :
    AllSteps (step deviceOf) (Good deviceOf) initial es ↔
      RunsWithin Writers.next Writers.Recovers initial.writers es :=
  allSteps_iff_runsWithin (fun _ _ _ h => h.good_iff) (fun _ _ _ h hok => h.step hok)
    (follows_initial deviceOf) es

/-- A writer loses its liveliness and recovers. Its device is alive and gone. -/
theorem live_device_dropped :
    let chunk : Chunk := ⟨HeapChain.Malloc.bump, .done, emptyResult⟩
    let es : List Event :=
      [.matched 1, .taken 1 chunk ⟨1, [], [], [], [], [], []⟩, .notAlive 1, .aliveAgain 1]
    ∃ s, runEvents (step id) initial es = some s ∧ 1 ∈ s.writers.alive ∧ 1 ∈ s.writers.taken ∧
      devices s.registry = some [] := by
  exact ⟨_, rfl, by decide, by decide, by decide⟩

end LiveDevices
