import RmtLibrary.GhostDevices

/-! # Two drains of one reader

The receive thread and a thread inside `rmt_server_create_device_list` may drain the DeviceInfo
reader at the same time. Each of `n` drains takes a sample in one step and passes it to
`add_device` in another. Only the second one is under the mutex. -/
namespace ConcurrentDrains

open DdsTransport (Sample)
open DeviceCallbacks
open DeviceRegistry
open DevinfoServer
open GhostDevices (Announcement arrive sameDevice)
open GuardedExecution

/-- Where a drain stands. The announcement in its buffer is kept with its number. -/
inductive Drain where
  | idle
  | draining
  | holding (number : ℕ) (a : Announcement)
  deriving DecidableEq

/-- The code does not keep what was taken, in that order, and the number of the announcement that
was stored last for a device. -/
structure State (n : ℕ) where
  registry : Registry
  reader : List (Sample Announcement)
  drain : Fin n → Drain
  taken : List Announcement
  stored : ℕ → Option ℕ

/-- With history `KEEP_LAST` an announcement replaces older samples of its device. A writer that
went away leaves a sample without valid data. -/
inductive Event (n : ℕ) where
  | announce (a : Announcement) (keepLast : Bool)
  | gone (a : Announcement)
  | begin (i : Fin n)
  | take (i : Fin n) (j : ℕ)
  | stop (i : Fin n) (failed : Bool)
  | add (i : Fin n) (chunk : Chunk)

variable {n : ℕ}

def start (n : ℕ) (registry : Registry) (reader : List (Sample Announcement)) : State n :=
  ⟨registry, reader, fun _ => .idle, [], fun _ => none⟩

/-- The samples of a device are taken in the order of the reader. -/
def takeSample (s : State n) (i : Fin n) (j : ℕ) : Option (State n) := do
  let sample ← s.reader[j]?
  if (s.reader.take j).any (sameDevice sample.data) then none
  else
    let s := { s with reader := s.reader.eraseIdx j }
    if sample.validData then
      some { s with
        drain := Function.update s.drain i (.holding s.taken.length sample.data)
        taken := s.taken ++ [sample.data] }
    else some { s with drain := Function.update s.drain i .idle }

/-- The loop of `dds_transport_try_recv` in each drain. It ends with a sample without data, when
there is none and when `dds_take` fails. -/
def step (s : State n) : Event n → Option (State n)
  | .announce a keepLast => some { s with reader := arrive a keepLast s.reader }
  | .gone a => some { s with reader := s.reader ++ [⟨false, a⟩] }
  | .begin i =>
    match s.drain i with
    | .idle => some { s with drain := Function.update s.drain i .draining }
    | _ => none
  | .take i j =>
    match s.drain i with
    | .draining => takeSample s i j
    | _ => none
  | .stop i failed =>
    match s.drain i with
    | .draining =>
      if s.reader.isEmpty ∨ failed then
        some { s with drain := Function.update s.drain i .idle }
      else none
    | _ => none
  | .add i chunk =>
    match s.drain i with
    | .holding number a => do
      let registry ← addDevice chunk a.msg a.handle s.registry
      some { s with
        registry
        drain := Function.update s.drain i .draining
        stored := Function.update s.stored a.msg.deviceID (some number) }
    | _ => none

def Finished (s : State n) : Prop := ∀ i, s.drain i = .idle

def LastTaken (s : State n) (id : ℕ) (a : Announcement) : Prop :=
  a.msg.deviceID = id ∧ ∃ number : ℕ, s.taken[number]? = some a ∧
    ∀ (later : ℕ) (b : Announcement), number < later → s.taken[later]? = some b →
      b.msg.deviceID ≠ id

/-- The entry of each device has fields and handle of the announcement that was taken last. -/
def Newest (s : State n) : Prop :=
  ∃ t, devices s.registry = some t ∧ (ids t).Nodup ∧ ∀ id a, LastTaken s id a →
    ∃ dev ∈ t, dev.info = copyInfo a.msg ∧ dev.internalId = a.handle

/-- What the drain holds was taken behind what is stored for its device. -/
def Drain.Newer (stored : ℕ → Option ℕ) : Drain → Prop
  | .holding number a => ∀ last ∈ stored a.msg.deviceID, last < number
  | _ => True

/-- No announcement is stored behind one of its device that was taken after it. -/
def InOrder (s : State n) : Event n → Prop
  | .add i _ => (s.drain i).Newer s.stored
  | _ => True

instance (stored : ℕ → Option ℕ) : (d : Drain) → Decidable (d.Newer stored)
  | .holding _ _ => inferInstanceAs (Decidable (∀ _ ∈ _, _))
  | .idle => isTrue trivial
  | .draining => isTrue trivial

instance (s : State n) : (e : Event n) → Decidable (InOrder s e)
  | .add i _ => inferInstanceAs (Decidable ((s.drain i).Newer s.stored))
  | .announce _ _ => isTrue trivial
  | .gone _ => isTrue trivial
  | .begin _ => isTrue trivial
  | .take _ _ => isTrue trivial
  | .stop _ _ => isTrue trivial

instance (s : State n) : Decidable (Finished s) := inferInstanceAs (Decidable (∀ _, _))

def Proper (registry : Registry) : Prop := ∃ t, HoldsTable registry t ∧ (ids t).Nodup

theorem proper_init : Proper devinfoServerInit := ⟨[], holdsTable_init, List.nodup_nil⟩

def EntryOf (t : List DevList) (a : Announcement) : Prop :=
  ∃ dev, t.find? (hasId a.msg.deviceID) = some dev ∧ dev.info = copyInfo a.msg ∧
    dev.internalId = a.handle

/-- A device's entry is the announcement stored last, and what was taken later is still held. -/
structure Invariant (s : State n) : Prop where
  held : ∀ i number a, s.drain i = .holding number a → s.taken[number]? = some a
  covered : ∀ (number : ℕ) a, s.taken[number]? = some a →
    (∃ i, s.drain i = .holding number a) ∨
      ∃ last ∈ s.stored a.msg.deviceID, number ≤ last
  entries : ∃ t, HoldsTable s.registry t ∧ (ids t).Nodup ∧
    ∀ id, ∀ last ∈ s.stored id, ∃ a, s.taken[last]? = some a ∧ a.msg.deviceID = id ∧ EntryOf t a

theorem invariant_start {registry : Registry} (hproper : Proper registry)
    (reader : List (Sample Announcement)) : Invariant (start n registry reader) := by
  obtain ⟨t, ht, hd⟩ := hproper
  refine ⟨?_, ?_, t, ht, hd, ?_⟩ <;> simp [start]

variable {s t : State n}

theorem Invariant.goto (hinv : Invariant s) {i : Fin n}
    (hfrom : ∀ number a, s.drain i ≠ .holding number a) {d : Drain}
    (hto : ∀ number a, d ≠ .holding number a) (reader : List (Sample Announcement)) :
    Invariant { s with reader, drain := Function.update s.drain i d } := by
  have hsame : ∀ i' number a, Function.update s.drain i d i' = .holding number a ↔
      s.drain i' = .holding number a := by
    intro i' number a
    by_cases hi : i' = i
    · subst hi
      rw [Function.update_self]
      exact iff_of_false (hto number a) (hfrom number a)
    · rw [Function.update_of_ne hi]
  refine ⟨?_, ?_, hinv.entries⟩
  · intro i' number a hdrain
    exact hinv.held i' number a ((hsame i' number a).mp hdrain)
  · intro number a htaken
    refine (hinv.covered number a htaken).imp_left ?_
    rintro ⟨i', hdrain⟩
    exact ⟨i', (hsame i' number a).mpr hdrain⟩

theorem Invariant.read (hinv : Invariant s) (reader : List (Sample Announcement)) :
    Invariant { s with reader } :=
  ⟨hinv.held, hinv.covered, hinv.entries⟩

theorem taken_snoc {taken : List Announcement} {a b : Announcement} {number : ℕ} :
    (taken ++ [b])[number]? = some a ↔
      taken[number]? = some a ∨ number = taken.length ∧ a = b := by
  rcases lt_trichotomy number taken.length with hlt | rfl | hgt
  · rw [List.getElem?_append_left hlt]
    simp [hlt.ne]
  · simp [eq_comm]
  · rw [List.getElem?_eq_none (by simp; omega), List.getElem?_eq_none (by omega)]
    simp [hgt.ne']

theorem Invariant.holdNext (hinv : Invariant s) {i : Fin n}
    (hfrom : ∀ number a, s.drain i ≠ .holding number a) (b : Announcement)
    (reader : List (Sample Announcement)) :
    Invariant { s with
      reader
      drain := Function.update s.drain i (.holding s.taken.length b)
      taken := s.taken ++ [b] } := by
  constructor
  · intro i' number a hdrain
    dsimp only at hdrain ⊢
    rw [taken_snoc]
    by_cases hi : i' = i
    · subst hi
      rw [Function.update_self] at hdrain
      cases hdrain
      exact Or.inr ⟨rfl, rfl⟩
    · rw [Function.update_of_ne hi] at hdrain
      exact Or.inl (hinv.held i' number a hdrain)
  · intro number a htaken
    rcases taken_snoc.mp htaken with htaken | ⟨rfl, rfl⟩
    · refine (hinv.covered number a htaken).imp_left ?_
      rintro ⟨i', hdrain⟩
      have hi : i' ≠ i := by
        rintro rfl
        exact hfrom number a hdrain
      exact ⟨i', (Function.update_of_ne hi ..).trans hdrain⟩
    · exact Or.inl ⟨i, Function.update_self ..⟩
  · obtain ⟨table, ht, hd, hentries⟩ := hinv.entries
    refine ⟨table, ht, hd, ?_⟩
    intro id last hlast
    obtain ⟨a, htaken, hid, hentry⟩ := hentries id last hlast
    exact ⟨a, taken_snoc.mpr (Or.inl htaken), hid, hentry⟩

theorem invariant_takeSample (hinv : Invariant s) {i : Fin n} {j : ℕ}
    (hdrain : s.drain i = .draining) (hs : takeSample s i j = some t) : Invariant t := by
  have hfrom : ∀ number a, s.drain i ≠ .holding number a := by
    intro number a
    rw [hdrain]
    exact Drain.noConfusion
  obtain ⟨sample, -, hs⟩ := Option.bind_eq_some_iff.mp hs
  split at hs
  · cases hs
  · by_cases hvalid : sample.validData
    · simp only [hvalid, if_true, Option.some.injEq] at hs
      subst hs
      exact hinv.holdNext hfrom sample.data _
    · simp only [hvalid, if_false, Option.some.injEq, Bool.false_eq_true] at hs
      subst hs
      exact hinv.goto hfrom (fun _ _ => Drain.noConfusion) _

theorem invariant_add (hinv : Invariant s) {i : Fin n} {chunk : Chunk} {number : ℕ}
    {a : Announcement} (hdrain : s.drain i = .holding number a)
    (horder : ∀ last ∈ s.stored a.msg.deviceID, last < number) {registry : Registry}
    (hadd : addDevice chunk a.msg a.handle s.registry = some registry) :
    Invariant { s with
      registry
      drain := Function.update s.drain i .draining
      stored := Function.update s.stored a.msg.deviceID (some number) } := by
  have htaken := hinv.held i number a hdrain
  constructor
  · intro i' number' a' hdrain'
    dsimp only at hdrain'
    by_cases hi : i' = i
    · subst hi
      rw [Function.update_self] at hdrain'
      cases hdrain'
    · rw [Function.update_of_ne hi] at hdrain'
      exact hinv.held i' number' a' hdrain'
  · intro number' a' htaken'
    by_cases hid : a'.msg.deviceID = a.msg.deviceID
    · -- An earlier announcement of the device is covered now, whether it was held or stored.
      rcases hinv.covered number' a' htaken' with ⟨i', hdrain'⟩ | ⟨last, hlast, hle⟩
      · by_cases hi : i' = i
        · subst hi
          rw [hdrain] at hdrain'
          cases hdrain'
          exact Or.inr ⟨number, by rw [hid]; exact Function.update_self .., le_rfl⟩
        · exact Or.inl ⟨i', (Function.update_of_ne hi ..).trans hdrain'⟩
      · rw [hid] at hlast
        have hlt := horder last hlast
        exact Or.inr ⟨number, by rw [hid]; exact Function.update_self .., by omega⟩
    · rcases hinv.covered number' a' htaken' with ⟨i', hdrain'⟩ | hstored
      · have hi : i' ≠ i := by
          rintro rfl
          rw [hdrain] at hdrain'
          cases hdrain'
          exact hid rfl
        exact Or.inl ⟨i', (Function.update_of_ne hi ..).trans hdrain'⟩
      · dsimp only
        rw [Function.update_of_ne hid]
        exact Or.inr hstored
  · obtain ⟨table, ht, hd, hentries⟩ := hinv.entries
    obtain ⟨registry', hadd', ht'⟩ := addDevice_table ht chunk a.msg a.handle
    obtain rfl := Option.some.inj (hadd.symm.trans hadd')
    refine ⟨_, ht', ?_, ?_⟩
    · rw [ids_tableAdd]
      split
      · exact hd
      · next hnew => exact List.nodup_cons.mpr ⟨hnew, hd⟩
    · intro id last hlast
      dsimp only at hlast
      by_cases hid : id = a.msg.deviceID
      · subst hid
        rw [Function.update_self] at hlast
        obtain rfl : number = last := Option.some.inj hlast
        exact ⟨a, htaken, rfl, find?_tableAdd_self chunk (copyInfo a.msg) a.handle table⟩
      · rw [Function.update_of_ne hid] at hlast
        obtain ⟨b, hb, rfl, hentry⟩ := hentries id last hlast
        refine ⟨b, hb, rfl, ?_⟩
        rw [EntryOf, @find?_tableAdd_of_ne (copyInfo a.msg) _ hid]
        exact hentry

theorem invariant_step {e : Event n} (hinv : Invariant s) (hok : InOrder s e)
    (hs : step s e = some t) : Invariant t := by
  cases e with
  | announce a keepLast =>
    cases hs
    exact hinv.read _
  | gone a =>
    cases hs
    exact hinv.read _
  | begin i =>
    cases hdrain : s.drain i with
    | idle =>
      simp only [step, hdrain, Option.some.injEq] at hs
      subst hs
      exact hinv.goto (fun _ _ => by rw [hdrain]; exact Drain.noConfusion)
        (fun _ _ => Drain.noConfusion) s.reader
    | draining => simp [step, hdrain] at hs
    | holding number a => simp [step, hdrain] at hs
  | take i j =>
    cases hdrain : s.drain i with
    | idle => simp [step, hdrain] at hs
    | draining =>
      simp only [step, hdrain] at hs
      exact invariant_takeSample hinv hdrain hs
    | holding number a => simp [step, hdrain] at hs
  | stop i failed =>
    cases hdrain : s.drain i with
    | idle => simp [step, hdrain] at hs
    | draining =>
      simp only [step, hdrain, Option.ite_none_right_eq_some, Option.some.injEq] at hs
      obtain ⟨-, rfl⟩ := hs
      exact hinv.goto (fun _ _ => by rw [hdrain]; exact Drain.noConfusion)
        (fun _ _ => Drain.noConfusion) s.reader
    | holding number a => simp [step, hdrain] at hs
  | add i chunk =>
    cases hdrain : s.drain i with
    | idle => simp [step, hdrain] at hs
    | draining => simp [step, hdrain] at hs
    | holding number a =>
      simp only [step, hdrain, Option.bind_eq_bind, Option.bind_eq_some_iff] at hs
      obtain ⟨registry, hadd, hs⟩ := hs
      obtain rfl := Option.some.inj hs
      rw [InOrder, hdrain] at hok
      exact invariant_add hinv hdrain hok hadd

theorem invariant_execution {registry : Registry} (hproper : Proper registry)
    {reader : List (Sample Announcement)}
    (h : Execution step InOrder (start n registry reader) s) : Invariant s :=
  h.invariant (invariant_start hproper reader) fun _ _ _ hinv hok hs => invariant_step hinv hok hs

/-- While no announcement is stored behind a later one of its device, the entry of each device is
the announcement that was taken last once all drains have finished. -/
theorem newest_announcement_wins {registry : Registry} (hproper : Proper registry)
    {reader : List (Sample Announcement)}
    (h : Execution step InOrder (start n registry reader) s) (hfinished : Finished s) :
    Newest s := by
  have hinv := invariant_execution hproper h
  obtain ⟨table, ht, hd, hentries⟩ := hinv.entries
  have hwalk : devices s.registry = some table := by
    rw [devices, ht.owned.card]
    exact ht.owned.copyCounted
  refine ⟨table, hwalk, hd, ?_⟩
  rintro id a ⟨rfl, number, htaken, hlatest⟩
  rcases hinv.covered number a htaken with ⟨i, hdrain⟩ | ⟨last, hlast, hle⟩
  · rw [hfinished i] at hdrain
    cases hdrain
  · obtain ⟨b, hb, hid, dev, hfind, hinfo, hhandle⟩ := hentries _ last hlast
    -- The announcement stored last is at least as new, so it is this one.
    have hsame : last = number := by
      by_contra hne
      exact hlatest last b (by omega) hb hid
    subst hsame
    obtain rfl := Option.some.inj (htaken.symm.trans hb)
    exact ⟨dev, (find?_hasId_some hfind).1, hinfo, hhandle⟩

def announcedBy (handle : ℕ) : Announcement := ⟨handle, ⟨5, [], [], [], [], [], []⟩⟩

def takeBoth (i j : Fin 2) : List (Event 2) :=
  [.announce (announcedBy 1) true, .begin i, .take i 0, .announce (announcedBy 2) true, .begin j,
    .take j 0]

theorem newest_announcement_wins_in_turn :
    ∃ s : State 2, s.taken = [announcedBy 1, announcedBy 2] ∧ Newest s := by
  obtain ⟨s, -, hex, hfinished, htaken⟩ := exists_execution step InOrder
    (start 2 devinfoServerInit []) (fun s => Finished s ∧ s.taken = [announcedBy 1, announcedBy 2])
    (takeBoth 0 1 ++ [.add 0 GhostDevices.chunk, .add 1 GhostDevices.chunk, .stop 0 false,
      .stop 1 false]) (by decide)
  exact ⟨s, htaken, newest_announcement_wins proper_init hex hfinished⟩

theorem older_announcement_stored_last :
    ∃ s : State 2, Reachable step (start 2 devinfoServerInit []) s ∧ Finished s ∧ ¬ Newest s := by
  obtain ⟨s, hreach, hfinished, htaken, hentry⟩ := @exists_reachable _ _ step
    (start 2 devinfoServerInit []) (fun s : State 2 => Finished s ∧
      s.taken = [announcedBy 1, announcedBy 2] ∧
      (devices s.registry).map (·.map DevList.internalId) = some [1]) _
    (takeBoth 0 1 ++ [.add 1 GhostDevices.chunk, .add 0 GhostDevices.chunk, .stop 0 false,
      .stop 1 false]) (by decide)
  refine ⟨s, hreach, hfinished, ?_⟩
  rintro ⟨t, hwalk, -, hnewest⟩
  have hlast : LastTaken s 5 (announcedBy 2) := by
    refine ⟨rfl, 1, by rw [htaken]; rfl, ?_⟩
    intro later b hlater hb
    rw [htaken, List.getElem?_eq_none (Nat.succ_le_of_lt hlater)] at hb
    cases hb
  obtain ⟨dev, hdev, -, hhandle⟩ := hnewest 5 _ hlast
  rw [hwalk, Option.map_some, Option.some.injEq] at hentry
  have hone : dev.internalId ∈ [1] := hentry ▸ List.mem_map_of_mem hdev
  rw [hhandle] at hone
  exact absurd hone (by decide)

end ConcurrentDrains
