import RmtLibrary.DeviceDiscovery
import RmtLibrary.GuardedExecution

/-! # What the server lists of its devices

The registry lists, for each device, one message of its agent as a whole. The messages of an agent
are taken in the order in which they were written, and the drains of the reader do not overlap.
So no list shows an older message than a list before it, and once nothing of a device is under way
the list shows what the device last observed. -/
namespace DiscoveryCorrectness

open ChangeDetection (Texts Holds observe)
open DdsTransport (Sample taken left valid)
open DeviceDiscovery
open DeviceRegistry
open DevinfoServer
open GuardedExecution
open Idl (DeviceInfoMsg)

variable {n : ℕ} {fleet : Fleet n}

noncomputable def owner (fleet : Fleet n) : ℕ → ℕ :=
  Function.extend fleet.handle fleet.id fun _ => 0

theorem owner_handle (fleet : Fleet n) (i : Fin n) : owner fleet (fleet.handle i) = fleet.id i :=
  fleet.handles.extend_apply _ _ i

def fieldsOf (e : Entry) : DeviceInfo × ℕ := (e.fields, e.handle)

def entryFor (fleet : Fleet n) (written : Fin n → List DeviceInfoMsg) (i : Fin n) (k : ℕ) :
    Option (DeviceInfo × ℕ) :=
  (written i)[k]?.map fun msg => (copyInfo msg, fleet.handle i)

/-- The registry has the devices that are shown, each with the message that is shown of it. -/
structure Lists (fleet : Fleet n) (written : Fin n → List DeviceInfoMsg)
    (shown : Fin n → Option ℕ) (registry : Registry) (m : DeviceMap) : Prop where
  represents : Represents (owner fleet) registry m
  entry : ∀ i, (m (fleet.id i)).map fieldsOf = (shown i).bind (entryFor fleet written i)
  known : ∀ id, (m id).isSome → ∃ i, id = fleet.id i

theorem fits {m : DeviceMap} {c : Call} (h : ∀ id, (mapNext m c id).isSome → ∃ i, id = fleet.id i) :
    FitsCounter m c := by
  refine ⟨Finset.univ.image fleet.id, ?_, ?_⟩
  · intro id hid
    obtain ⟨i, rfl⟩ := h id hid
    exact Finset.mem_image_of_mem _ (Finset.mem_univ i)
  · have hcard : (Finset.univ.image fleet.id).card ≤ n := by
      simpa using Finset.card_image_le (s := (Finset.univ : Finset (Fin n))) (f := fleet.id)
    exact hcard.trans_lt fleet.size

theorem lists_initial : Lists fleet (fun _ => []) (fun _ => none) devinfoServerInit noDevices where
  represents := represents_init _
  entry _ := rfl
  known _ h := by simp [noDevices] at h

theorem Lists.add {written : Fin n → List DeviceInfoMsg} {shown : Fin n → Option ℕ}
    {registry : Registry} {m : DeviceMap} (h : Lists fleet written shown registry m)
    {a : Announced n} (ha : (written a.agent)[a.number]? = some a.msg)
    (hid : a.msg.deviceID = fleet.id a.agent) (chunk : Chunk) :
    ∃ registry' m', addAnnounced fleet chunk a registry = some (registry', 0) ∧
      Lists fleet written (Function.update shown a.agent (some a.number)) registry' m' := by
  let c : Call := .addDevice chunk a.msg (fleet.handle a.agent)
  have hknown : ∀ id, (mapNext m c id).isSome → ∃ i, id = fleet.id i := by
    intro id hsome
    by_cases he : id = a.msg.deviceID
    · exact ⟨a.agent, he.trans hid⟩
    · simp only [c, mapNext, Function.update_of_ne he] at hsome
      exact h.known id hsome
  have hannounces : Announces (owner fleet) c := (owner_handle fleet a.agent).trans hid.symm
  obtain ⟨registry', ans, hcall, -, hrep⟩ := call_represents h.represents hannounces (fits hknown)
  obtain ⟨r, hr, he⟩ := Option.map_eq_some_iff.mp hcall
  obtain ⟨rfl, -⟩ := Prod.mk.inj he
  refine ⟨r, _, by simp [addAnnounced, hr], hrep, ?_, hknown⟩
  intro i
  by_cases hi : i = a.agent
  · subst hi
    rw [Function.update_self]
    simp only [c, mapNext, hid, Function.update_self, Option.map_some, Option.bind_some, entryFor,
      ha, fieldsOf]
  · have hne : fleet.id i ≠ a.msg.deviceID := by
      rw [hid]
      exact fun he => hi (fleet.ids he)
    rw [Function.update_of_ne hi, ← h.entry i]
    simp only [c, mapNext, Function.update_of_ne hne]

theorem Lists.addAll {written : Fin n → List DeviceInfoMsg} {shown : Fin n → Option ℕ}
    {registry : Registry} {m : DeviceMap} (h : Lists fleet written shown registry m)
    {as : List (Announced n)} (has : ∀ a ∈ as, (written a.agent)[a.number]? = some a.msg ∧
      a.msg.deviceID = fleet.id a.agent) (chunk : Chunk) :
    ∃ registry' m', DdsTransport.runCallback (addAnnounced fleet chunk) registry as =
        some registry' ∧ Lists fleet written (note shown as) registry' m' := by
  induction as generalizing shown registry m with
  | nil => exact ⟨registry, m, rfl, h⟩
  | cons a as ih =>
    obtain ⟨ha, hid⟩ := has a List.mem_cons_self
    obtain ⟨r, m₁, hadd, h₁⟩ := h.add ha hid chunk
    obtain ⟨registry', m', hrun, h'⟩ := ih h₁ fun b hb => has b (List.mem_cons_of_mem _ hb)
    refine ⟨registry', m', ?_, h'⟩
    rw [DdsTransport.runCallback_cons, hadd]
    exact hrun

theorem Lists.lose {written : Fin n → List DeviceInfoMsg} {shown : Fin n → Option ℕ}
    {registry : Registry} {m : DeviceMap} (h : Lists fleet written shown registry m) (i : Fin n) :
    ∃ registry' m', delDevice (fleet.handle i) registry = some registry' ∧
      Lists fleet written (Function.update shown i none) registry' m' := by
  let c : Call := .delDevice (fleet.handle i)
  have hknown : ∀ id, (mapNext m c id).isSome → ∃ j, id = fleet.id j := by
    intro id hsome
    apply h.known id
    obtain ⟨e, he⟩ := Option.isSome_iff_exists.mp hsome
    exact Option.isSome_of_mem (Option.filter_eq_some_iff.mp he).1
  obtain ⟨registry', ans, hcall, -, hrep⟩ :=
    call_represents (c := c) h.represents trivial (fits hknown)
  obtain ⟨r, hr, he⟩ := Option.map_eq_some_iff.mp hcall
  obtain ⟨rfl, -⟩ := Prod.mk.inj he
  refine ⟨r, _, hr, hrep, ?_, hknown⟩
  intro j
  have hentry := h.entry j
  simp only [c, mapNext]
  by_cases hj : j = i
  · subst hj
    rw [Function.update_self]
    cases hm : m (fleet.id j) with
    | none => rfl
    | some e =>
      -- an entry of the device carries its handle
      have hhandle : e.handle = fleet.handle j := by
        rw [hm] at hentry
        obtain ⟨k, -, hk⟩ := Option.bind_eq_some_iff.mp hentry.symm
        obtain ⟨msg, -, he⟩ := Option.map_eq_some_iff.mp hk
        exact (Prod.mk.inj he).2.symm
      simp [Option.filter, hhandle]
  · rw [Function.update_of_ne hj, ← hentry]
    cases hm : m (fleet.id j) with
    | none => rfl
    | some e =>
      have hhandle : e.handle ≠ fleet.handle i := by
        rw [hm] at hentry
        obtain ⟨k, -, hk⟩ := Option.bind_eq_some_iff.mp hentry.symm
        obtain ⟨msg, -, he⟩ := Option.map_eq_some_iff.mp hk
        have hown : fleet.handle j = e.handle := (Prod.mk.inj he).2
        rw [← hown]
        exact fun he => hj (fleet.handles he)
      simp [Option.filter, hhandle]

theorem Lists.grow {written written' : Fin n → List DeviceInfoMsg} {shown : Fin n → Option ℕ}
    {registry : Registry} {m : DeviceMap} (h : Lists fleet written shown registry m)
    (hgrow : ∀ i k, shown i = some k → (written' i)[k]? = (written i)[k]?) :
    Lists fleet written' shown registry m := by
  refine ⟨h.represents, ?_, h.known⟩
  intro i
  rw [h.entry i]
  cases hs : shown i with
  | none => rfl
  | some k => simp only [Option.bind_some, entryFor, hgrow i k hs]

def ofAgent (i : Fin n) (as : List (Announced n)) : List (Announced n) :=
  as.filter fun a => a.agent = i

def pool (s : Network n) (i : Fin n) : List (Announced n) :=
  ofAgent i (valid s.reader) ++ s.inFlight i

def Wrote (fleet : Fleet n) (s : Network n) (a : Announced n) : Prop :=
  (s.written a.agent)[a.number]? = some a.msg ∧ a.msg.deviceID = fleet.id a.agent

def lastNumber (as : List (Announced n)) (k : Option ℕ) : Option ℕ :=
  (as.getLast?.map Announced.number).or k

/-- The samples of an agent are under way in order, behind those that were taken, and the last
one that was written is the last of them. -/
structure InOrder (fleet : Fleet n) (s : Network n) (i : Fin n) : Prop where
  own : ∀ a ∈ s.inFlight i, a.agent = i
  ownCache : ∀ c ∈ s.cache i, c.agent = i ∧ Wrote fleet s c
  wrote : ∀ a ∈ pool s i, Wrote fleet s a
  sorted : (pool s i).Pairwise fun a b => a.number < b.number
  later : ∀ k ∈ s.seen i, ∀ a ∈ pool s i, k ≤ a.number
  bound : ∀ k ∈ s.seen i, k < (s.written i).length
  last : lastNumber (pool s i) (s.seen i) = (s.cache i).map Announced.number

/-- The buffers of an agent hold what it observed last, and so does its last message. -/
structure Device (fleet : Fleet n) (s : Network n) (i : Fin n) : Prop where
  holds : Holds (s.observed i) (s.device i)
  func : (s.device i).agentDevinfoFunc = fleet.devinfoFunc i
  deviceID : (s.device i).deviceID = fleet.id i
  ids : ∀ msg ∈ s.written i, msg.deviceID = fleet.id i
  latest : s.written i ≠ [] → ∃ msg ∈ (s.written i).getLast?,
    Texts.ofMsg msg = s.observed i

structure Invariant (fleet : Fleet n) (s : Network n) : Prop where
  device : ∀ i, Device fleet s i
  order : ∀ i, InOrder fleet s i
  seen : ∀ i k, s.shown i = some k → s.seen i = some k
  lists : ∃ m, Lists fleet s.written s.shown s.registry m

theorem mem_ofAgent {i : Fin n} {as : List (Announced n)} {a : Announced n} :
    a ∈ ofAgent i as ↔ a ∈ as ∧ a.agent = i := by simp [ofAgent]

theorem ofAgent_append (i : Fin n) (as bs : List (Announced n)) :
    ofAgent i (as ++ bs) = ofAgent i as ++ ofAgent i bs := List.filter_append ..

theorem InOrder.agent {s : Network n} {i : Fin n} (h : InOrder fleet s i) {a : Announced n}
    (ha : a ∈ pool s i) : a.agent = i := by
  rcases List.mem_append.mp ha with hread | hflight
  · exact (mem_ofAgent.mp hread).2
  · exact h.own a hflight

/-- The order rests on these parts of the state, and samples may leave as long as the last one
stays. -/
theorem InOrder.shrink {s s' : Network n} {i : Fin n} (h : InOrder fleet s i)
    (hwritten : s'.written = s.written) (hcache : s'.cache i = s.cache i)
    (hseen : s'.seen i = s.seen i) (hown : ∀ a ∈ s'.inFlight i, a.agent = i)
    (hsub : (pool s' i).Sublist (pool s i))
    (hlast : (pool s' i).getLast? = (pool s i).getLast?) : InOrder fleet s' i := by
  have hwrote : ∀ a, Wrote fleet s a → Wrote fleet s' a := by
    intro a ha
    rw [Wrote, hwritten]
    exact ha
  constructor
  · exact hown
  · intro c hc
    rw [hcache] at hc
    exact ⟨(h.ownCache c hc).1, hwrote c (h.ownCache c hc).2⟩
  · exact fun a ha => hwrote a (h.wrote a (hsub.subset ha))
  · exact h.sorted.sublist hsub
  · intro k hk a ha
    rw [hseen] at hk
    exact h.later k hk a (hsub.subset ha)
  · intro k hk
    rw [hseen] at hk
    rw [hwritten]
    exact h.bound k hk
  · rw [lastNumber, hlast, hseen, hcache]
    exact h.last

theorem device_initial (i : Fin n) : Device fleet (initial fleet) i where
  holds := ⟨ChangeDetection.holdsDevice_initial, _, rfl, ChangeDetection.cstr_zeros (fleet.sizes i)⟩
  func := rfl
  deviceID := rfl
  ids _ h := nomatch h
  latest h := absurd rfl h

theorem update_deviceID {projectVersion netInterface : CString.Text} {devinfoSize : ℕ}
    {o : DevinfoAgent.Observation} {s s' : DevinfoAgent.State} {msg : Option DeviceInfoMsg}
    (h : DevinfoAgent.devinfoAgentUpdate projectVersion devinfoSize netInterface o s =
      some (s', msg)) : s'.deviceID = s.deviceID ∧ ∀ m ∈ msg, m.deviceID = s.deviceID := by
  obtain ⟨s₁, hinfo, h⟩ := Option.bind_eq_some_iff.mp h
  have hsame : s₁.deviceID = s.deviceID := by
    simp only [DevinfoAgent.getDeviceInfo, Option.bind_eq_bind, Option.bind_eq_some_iff] at hinfo
    obtain ⟨devinfo, -, tmp, -, old, -, new, -, hinfo⟩ := hinfo
    split at hinfo
    · obtain ⟨m, -, hinfo⟩ := Option.bind_eq_some_iff.mp hinfo
      obtain rfl := Option.some.inj hinfo
      rfl
    · obtain rfl := Option.some.inj hinfo
      rfl
  split at h
  · obtain ⟨m, hm, h⟩ := Option.bind_eq_some_iff.mp h
    obtain ⟨rfl, rfl⟩ := Prod.mk.inj (Option.some.inj h)
    refine ⟨hsame, ?_⟩
    intro m' hm'
    obtain rfl := Option.some.inj hm'
    simp only [DevinfoAgent.message, Option.bind_eq_bind, Option.bind_eq_some_iff] at hm
    obtain ⟨model, -, host, -, ip, -, mac, -, devinfo, -, text, -, hm⟩ := hm
    obtain rfl := Option.some.inj hm
    exact hsame
  · obtain ⟨rfl, rfl⟩ := Prod.mk.inj (Option.some.inj h)
    exact ⟨hsame, by simp⟩

def Fits (fleet : Fleet n) (s : Network n) : Event n → Prop
  | .update i netInterface o _ => (observe (fleet.devinfoFunc i) netInterface o
      (s.observed i)).Within (fleet.cfg i).devinfoSize
  | _ => True

theorem update_device {s : Network n} {i : Fin n} (h : Device fleet s i)
    {netInterface : CString.Text} {o : DevinfoAgent.Observation} (writes : Bool)
    (hfits : Fits fleet s (.update i netInterface o writes)) {s' : Network n}
    (hstep : updateStep fleet i netInterface o writes s = some s') :
    Device fleet s' i ∧ ∃ msg : Option DeviceInfoMsg,
      s'.written = Function.update s.written i (s.written i ++ msg.toList) ∧
      s'.observed = Function.update s.observed i (s'.observed i) ∧
      ∃ sent : Option (Announced n), (∀ a ∈ sent, a.agent = i ∧
          a.number = (s.written i).length ∧ msg = some a.msg ∧ a.msg.deviceID = fleet.id i) ∧
        s'.inFlight = Function.update s.inFlight i (s.inFlight i ++ sent.toList) ∧
        s'.cache = Function.update s.cache i (sent.or (s.cache i)) := by
  obtain ⟨⟨device, msg⟩, hupdate, hs'⟩ := Option.bind_eq_some_iff.mp hstep
  obtain rfl := Option.some.inj hs'
  have hin : (observe (s.device i).agentDevinfoFunc netInterface o (s.observed i)).Within
      (fleet.cfg i).devinfoSize := by
    rw [h.func]
    exact hfits
  obtain ⟨device', msg', hrun, hholds, hfunc, -, hmsg⟩ :=
    ChangeDetection.devinfoAgentUpdate_spec h.holds fleet.projectVersion netInterface o hin
  obtain ⟨rfl, rfl⟩ := Prod.mk.inj (Option.some.inj (hupdate.symm.trans hrun))
  rw [h.func] at hholds hmsg hfunc
  obtain ⟨hid, hmsgId⟩ := update_deviceID hupdate
  refine ⟨?_, msg, rfl, by simp, _, ?_, rfl, rfl⟩
  · constructor
    · simpa using hholds
    · simpa using hfunc
    · simpa using hid.trans h.deviceID
    · intro m hm
      simp only [Function.update_self, List.mem_append, Option.mem_toList] at hm
      rcases hm with hold | hnew
      · exact h.ids m hold
      · exact (hmsgId m hnew).trans h.deviceID
    · intro hne
      simp only [Function.update_self] at hne ⊢
      cases msg with
      | some m =>
        refine ⟨m, by simp, ?_⟩
        rw [Option.map_some] at hmsg
        split at hmsg
        · exact Option.some.inj hmsg
        · cases hmsg
      | none =>
        -- nothing is written because nothing has changed since the last message
        rw [Option.map_none] at hmsg
        split at hmsg
        · cases hmsg
        · next hsame =>
          push Not at hsame
          obtain ⟨-, heq⟩ := hsame
          obtain ⟨m, hm, htexts⟩ := h.latest (by simpa using hne)
          exact ⟨m, by simpa using hm, htexts.trans heq.symm⟩
  · intro a ha
    cases writes with
    | false => cases ha
    | true =>
      obtain ⟨m, rfl, rfl⟩ := Option.map_eq_some_iff.mp ha
      exact ⟨rfl, rfl, rfl, (hmsgId m rfl).trans h.deviceID⟩

theorem InOrder.congr {s s' : Network n} {i : Fin n} (h : InOrder fleet s i)
    (hwritten : s'.written i = s.written i) (hflight : s'.inFlight i = s.inFlight i)
    (hcache : s'.cache i = s.cache i) (hseen : s'.seen i = s.seen i)
    (hpool : pool s' i = pool s i) : InOrder fleet s' i := by
  have hwrote : ∀ a, a.agent = i → Wrote fleet s a → Wrote fleet s' a := by
    rintro a rfl ha
    rw [Wrote, hwritten]
    exact ha
  constructor
  · rw [hflight]
    exact h.own
  · intro c hc
    rw [hcache] at hc
    obtain ⟨hown, hc⟩ := h.ownCache c hc
    exact ⟨hown, hwrote c hown hc⟩
  · intro a ha
    rw [hpool] at ha
    exact hwrote a (h.agent ha) (h.wrote a ha)
  · rw [hpool]
    exact h.sorted
  · rw [hpool, hseen]
    exact h.later
  · rw [hseen, hwritten]
    exact h.bound
  · rw [hpool, hseen, hcache]
    exact h.last

theorem InOrder.write {s s' : Network n} {i : Fin n} (h : InOrder fleet s i)
    {msg : Option DeviceInfoMsg} (hwritten : s'.written i = s.written i ++ msg.toList)
    {sent : Option (Announced n)} (hsent : ∀ a ∈ sent, a.agent = i ∧
      a.number = (s.written i).length ∧ msg = some a.msg ∧ a.msg.deviceID = fleet.id i)
    (hflight : s'.inFlight i = s.inFlight i ++ sent.toList)
    (hcache : s'.cache i = sent.or (s.cache i)) (hseen : s'.seen i = s.seen i)
    (hreader : s'.reader = s.reader) : InOrder fleet s' i := by
  have hpool : pool s' i = pool s i ++ sent.toList := by
    rw [pool, hreader, hflight, ← List.append_assoc]
    rfl
  have hlt : ∀ a, Wrote fleet s a → a.agent = i → a.number < (s.written i).length := by
    rintro a ha rfl
    exact (List.getElem?_eq_some_iff.mp ha.1).1
  have hwrote : ∀ a, a.agent = i → Wrote fleet s a → Wrote fleet s' a := by
    intro a hown ha
    have hbound := hlt a ha hown
    subst hown
    refine ⟨?_, ha.2⟩
    rw [hwritten, List.getElem?_append_left hbound]
    exact ha.1
  have hnew : ∀ a ∈ sent, Wrote fleet s' a := by
    intro a ha
    obtain ⟨rfl, hnum, rfl, hid⟩ := hsent a ha
    refine ⟨?_, hid⟩
    rw [hwritten, hnum]
    simp
  constructor
  · intro a ha
    rw [hflight] at ha
    rcases List.mem_append.mp ha with hold | hlast
    · exact h.own a hold
    · exact (hsent a (by simpa using hlast)).1
  · intro c hc
    rw [hcache] at hc
    rcases Option.or_eq_some_iff.mp hc with hs | ⟨-, hold⟩
    · exact ⟨(hsent c hs).1, hnew c hs⟩
    · obtain ⟨hown, hold⟩ := h.ownCache c hold
      exact ⟨hown, hwrote c hown hold⟩
  · intro a ha
    rw [hpool] at ha
    rcases List.mem_append.mp ha with hold | hlast
    · exact hwrote a (h.agent hold) (h.wrote a hold)
    · exact hnew a (by simpa using hlast)
  · rw [hpool, List.pairwise_append]
    refine ⟨h.sorted, ?_, ?_⟩
    · cases sent <;> simp
    · intro a ha b hb
      obtain ⟨-, hnum, -⟩ := hsent b (by simpa using hb)
      rw [hnum]
      exact hlt a (h.wrote a ha) (h.agent ha)
  · intro k hk a ha
    rw [hseen] at hk
    rw [hpool] at ha
    rcases List.mem_append.mp ha with hold | hlast
    · exact h.later k hk a hold
    · obtain ⟨-, hnum, -⟩ := hsent a (by simpa using hlast)
      rw [hnum]
      exact (h.bound k hk).le
  · intro k hk
    rw [hseen] at hk
    have hbound := h.bound k hk
    rw [hwritten, List.length_append]
    omega
  · have hlast := h.last
    rw [hcache, hseen, hpool]
    cases sent with
    | none => simpa using hlast
    | some a => simp [lastNumber]

theorem getLast?_eraseIdx {α : Type} {l : List α} {k : ℕ} (hk : k + 1 < l.length) :
    (l.eraseIdx k).getLast? = l.getLast? := by
  rw [List.getLast?_eq_getElem?, List.getLast?_eq_getElem?, List.length_eraseIdx_of_lt (by omega),
    List.getElem?_eraseIdx_of_ge (by omega)]
  congr 1
  omega

theorem getLast?_append_left {α : Type} (r : List α) {f f' : List α} (hne : f ≠ [])
    (h : f'.getLast? = f.getLast?) : (r ++ f').getLast? = (r ++ f).getLast? := by
  obtain ⟨a, ha⟩ : ∃ a, f.getLast? = some a := ⟨_, List.getLast?_eq_some_getLast hne⟩
  rw [List.getLast?_append, List.getLast?_append, h, ha]

theorem InOrder.overwritten {s : Network n} {i : Fin n} (h : InOrder fleet s i) {k : ℕ}
    (hk : k + 1 < (s.inFlight i).length) : InOrder fleet
      { s with inFlight := Function.update s.inFlight i ((s.inFlight i).eraseIdx k) } i := by
  have hsub : ((s.inFlight i).eraseIdx k).Sublist (s.inFlight i) := List.eraseIdx_sublist _ _
  have hne : s.inFlight i ≠ [] := by
    rintro he
    simp [he] at hk
  refine h.shrink rfl rfl rfl ?_ ?_ ?_
  · simp only [Function.update_self]
    exact fun a ha => h.own a (hsub.subset ha)
  · simp only [pool, Function.update_self]
    exact (List.append_sublist_append_left _).mpr hsub
  · simp only [pool, Function.update_self]
    exact getLast?_append_left _ hne (getLast?_eraseIdx hk)

theorem valid_filter {α : Type} (q : α → Bool) (samples : List (Sample α)) :
    valid (samples.filter fun sample => q sample.data) = (valid samples).filter q := by
  simp only [valid, List.filter_map, List.filter_filter, Function.comp_def, Bool.and_comm]

theorem ofAgent_arrive {i : Fin n} {a : Announced n} {reader : List (Sample (Announced n))}
    (ha : a.msg.deviceID = fleet.id a.agent)
    (hids : ∀ b ∈ valid reader, b.msg.deviceID = fleet.id b.agent) (keepLast : Bool) :
    ofAgent i (valid (arrive a keepLast reader)) =
      if a.agent = i then (if keepLast then [] else ofAgent i (valid reader)) ++ [a]
      else ofAgent i (valid reader) := by
  have hlast : valid [(⟨true, a⟩ : Sample (Announced n))] = [a] := rfl
  rw [arrive, DdsTransport.valid_append, ofAgent_append, hlast]
  have hone : ofAgent i [a] = if a.agent = i then [a] else [] := by
    by_cases he : a.agent = i <;> simp [ofAgent, he]
  rw [hone]
  cases keepLast with
  | false =>
    simp only [Bool.false_eq_true, if_false]
    split <;> simp
  | true =>
    simp only [if_true]
    rw [valid_filter (fun b : Announced n => b.msg.deviceID != a.msg.deviceID)]
    by_cases he : a.agent = i
    · -- the older samples of the device are gone
      have hnone : ofAgent i ((valid reader).filter fun b =>
          b.msg.deviceID != a.msg.deviceID) = [] := by
        rw [List.eq_nil_iff_forall_not_mem]
        intro b hb
        obtain ⟨hb, hown⟩ := mem_ofAgent.mp hb
        obtain ⟨hb, hne⟩ := List.mem_filter.mp hb
        rw [hids b hb, ha, hown, he] at hne
        simp at hne
      rw [hnone, if_pos he, if_pos he]
    · rw [if_neg he, if_neg he, List.append_nil, ofAgent, List.filter_filter]
      apply List.filter_congr
      intro b hb
      by_cases hown : b.agent = i
      · have hne : fleet.id i ≠ fleet.id a.agent := fun hid => he (fleet.ids hid.symm)
        simp [hown, hids b hb, ha, hne]
      · simp [hown]

theorem valid_ids {s : Network n} (h : ∀ i, InOrder fleet s i) :
    ∀ b ∈ valid s.reader, b.msg.deviceID = fleet.id b.agent := by
  intro b hb
  have hmem : b ∈ pool s b.agent := List.mem_append_left _ (mem_ofAgent.mpr ⟨hb, rfl⟩)
  exact ((h b.agent).wrote b hmem).2

theorem inOrder_arrives {s : Network n} (h : ∀ i, InOrder fleet s i) {i : Fin n}
    {a : Announced n} {rest : List (Announced n)} (hflight : s.inFlight i = a :: rest)
    (keepLast : Bool) (j : Fin n) : InOrder fleet
      { s with
        inFlight := Function.update s.inFlight i rest
        reader := arrive a keepLast s.reader } j := by
  have hmem : a ∈ pool s i := List.mem_append_right _ (hflight ▸ List.mem_cons_self)
  have hown := (h i).agent hmem
  have hid := ((h i).wrote a hmem).2
  have harrive := ofAgent_arrive (i := j) hid (valid_ids h) keepLast
  rw [hown] at harrive
  by_cases hj : j = i
  · subst hj
    have hpool : pool s j = ofAgent j (valid s.reader) ++ a :: rest := by rw [pool, hflight]
    rw [if_pos rfl] at harrive
    refine (h j).shrink rfl rfl rfl ?_ ?_ ?_
    · simp only [Function.update_self]
      intro b hb
      exact (h j).own b (hflight ▸ List.mem_cons_of_mem _ hb)
    · rw [hpool]
      simp only [pool, Function.update_self, harrive, List.append_assoc, List.singleton_append]
      cases keepLast with
      | false => exact .refl _
      | true => exact List.sublist_append_right _ _
    · rw [hpool]
      simp only [pool, Function.update_self, harrive, List.append_assoc, List.singleton_append]
      cases keepLast with
      | false => rfl
      | true =>
        simp only [if_true, List.nil_append]
        rw [List.getLast?_append, List.getLast?_eq_some_getLast (List.cons_ne_nil a rest)]
        rfl
  · rw [if_neg (Ne.symm hj)] at harrive
    refine (h j).congr rfl ?_ rfl rfl ?_
    · simp only [Function.update_of_ne hj]
    · simp only [pool, Function.update_of_ne hj, harrive]

theorem lastNumber_append (as bs : List (Announced n)) (k : Option ℕ) :
    lastNumber (as ++ bs) k = lastNumber bs (lastNumber as k) := by
  rw [lastNumber, lastNumber, lastNumber, List.getLast?_append, Option.map_or, Option.or_assoc]

theorem note_eq (numbers : Fin n → Option ℕ) (as : List (Announced n)) (i : Fin n) :
    note numbers as i = lastNumber (ofAgent i as) (numbers i) := by
  induction as using List.reverseRecOn with
  | nil => rfl
  | append_singleton as a ih =>
    have hnote : note numbers (as ++ [a]) =
        Function.update (note numbers as) a.agent (some a.number) := by simp [note]
    rw [hnote, ofAgent_append, lastNumber_append, ← ih]
    by_cases he : a.agent = i
    · subst he
      simp [ofAgent, lastNumber]
    · rw [Function.update_of_ne (Ne.symm he)]
      simp [ofAgent, he, lastNumber]

theorem InOrder.drain {s s' : Network n} {i : Fin n} (h : InOrder fleet s i)
    (hwritten : s'.written = s.written) (hflight : s'.inFlight i = s.inFlight i)
    (hcache : s'.cache i = s.cache i) (hseen : s'.seen = note s.seen (taken s.reader))
    (hreader : s'.reader = left s.reader) : InOrder fleet s' i := by
  have hwrote : ∀ a, Wrote fleet s a → Wrote fleet s' a := by
    intro a ha
    rw [Wrote, hwritten]
    exact ha
  have hpool : pool s i = ofAgent i (taken s.reader) ++ pool s' i := by
    rw [pool, ← DdsTransport.taken_append_left s.reader, ofAgent_append, pool, hreader, hflight,
      List.append_assoc]
  have hseen' : s'.seen i = lastNumber (ofAgent i (taken s.reader)) (s.seen i) := by
    rw [hseen, note_eq]
  have hsorted := h.sorted
  rw [hpool, List.pairwise_append] at hsorted
  have hsub : (pool s' i).Sublist (pool s i) := by
    rw [hpool]
    exact List.sublist_append_right _ _
  -- what was seen last is a sample taken now, or what was seen before
  have hcases : ∀ k ∈ s'.seen i, (∃ a ∈ ofAgent i (taken s.reader), a.number = k) ∨
      k ∈ s.seen i := by
    intro k hk
    rw [hseen', lastNumber] at hk
    rcases Option.or_eq_some_iff.mp hk with hlast | ⟨-, hold⟩
    · obtain ⟨a, ha, rfl⟩ := Option.map_eq_some_iff.mp hlast
      exact .inl ⟨a, List.mem_of_getLast? ha, rfl⟩
    · exact .inr hold
  constructor
  · rw [hflight]
    exact h.own
  · intro c hc
    rw [hcache] at hc
    exact ⟨(h.ownCache c hc).1, hwrote c (h.ownCache c hc).2⟩
  · exact fun a ha => hwrote a (h.wrote a (hsub.subset ha))
  · exact hsorted.2.1
  · intro k hk a ha
    rcases hcases k hk with ⟨b, hb, rfl⟩ | hold
    · exact (hsorted.2.2 b hb a ha).le
    · exact h.later k hold a (hsub.subset ha)
  · intro k hk
    rw [hwritten]
    rcases hcases k hk with ⟨b, hb, rfl⟩ | hold
    · have hmem : b ∈ pool s i := by
        rw [hpool]
        exact List.mem_append_left _ hb
      have hb' := (h.wrote b hmem).1
      rw [h.agent hmem] at hb'
      exact (List.getElem?_eq_some_iff.mp hb').1
    · exact h.bound k hold
  · rw [hseen', ← lastNumber_append, ← hpool, hcache]
    exact h.last

/-- A new reader is given what the writers keep. -/
theorem InOrder.resend {s s' : Network n} {i : Fin n} (h : InOrder fleet s i)
    (hwritten : s'.written = s.written) (hflight : s'.inFlight i = (s.cache i).toList)
    (hcache : s'.cache i = s.cache i) (hseen : s'.seen i = s.seen i) (hreader : s'.reader = []) :
    InOrder fleet s' i := by
  have hwrote : ∀ a, Wrote fleet s a → Wrote fleet s' a := by
    intro a ha
    rw [Wrote, hwritten]
    exact ha
  have hpool : pool s' i = (s.cache i).toList := by
    rw [pool, hreader, hflight]
    rfl
  have hlast := h.last
  constructor
  · intro a ha
    rw [hflight] at ha
    exact (h.ownCache a (by simpa using ha)).1
  · intro c hc
    rw [hcache] at hc
    exact ⟨(h.ownCache c hc).1, hwrote c (h.ownCache c hc).2⟩
  · intro a ha
    rw [hpool] at ha
    exact hwrote a (h.ownCache a (by simpa using ha)).2
  · rw [hpool]
    cases s.cache i <;> simp
  · intro k hk a ha
    rw [hseen] at hk
    rw [hpool] at ha
    have hc : s.cache i = some a := by simpa using ha
    rw [hc, lastNumber, Option.mem_def.mp hk] at hlast
    rcases Option.or_eq_some_iff.mp hlast with hnum | ⟨-, hnum⟩
    · obtain ⟨b, hb, hnum⟩ := Option.map_eq_some_iff.mp hnum
      rw [← hnum]
      exact h.later k hk b (List.mem_of_getLast? hb)
    · exact (Option.some.inj hnum).le
  · rw [hseen, hwritten]
    exact h.bound
  · rw [hseen, hpool, hcache]
    cases hc : s.cache i with
    | none =>
      rw [hc, lastNumber, Option.map_none, Option.or_eq_none_iff] at hlast
      exact hlast.2
    | some c => rfl

theorem Device.congr {s s' : Network n} {i : Fin n} (h : Device fleet s i)
    (hdevice : s'.device i = s.device i) (hobserved : s'.observed i = s.observed i)
    (hwritten : s'.written i = s.written i) : Device fleet s' i := by
  obtain ⟨hholds, hfunc, hid, hids, hlatest⟩ := h
  rw [← hdevice, ← hobserved] at hholds
  rw [← hdevice] at hfunc hid
  rw [← hwritten] at hids hlatest
  rw [← hobserved] at hlatest
  exact ⟨hholds, hfunc, hid, hids, hlatest⟩

theorem invariant_initial : Invariant fleet (initial fleet) where
  device := device_initial
  order i := by
    constructor
    · exact nofun
    · exact nofun
    · exact nofun
    · exact .nil
    · exact nofun
    · exact nofun
    · rfl
  seen i k h := nomatch h
  lists := ⟨_, lists_initial⟩

theorem Invariant.devices {s s' : Network n} (h : Invariant fleet s)
    (hdevice : s'.device = s.device) (hobserved : s'.observed = s.observed)
    (hwritten : s'.written = s.written) (i : Fin n) : Device fleet s' i :=
  (h.device i).congr (by rw [hdevice]) (by rw [hobserved]) (by rw [hwritten])

theorem invariant_update {s s' : Network n} (h : Invariant fleet s) {i : Fin n}
    {netInterface : CString.Text} {o : DevinfoAgent.Observation} {writes : Bool}
    (hfits : Fits fleet s (.update i netInterface o writes))
    (hstep : updateStep fleet i netInterface o writes s = some s') : Invariant fleet s' := by
  obtain ⟨hdevice, msg, hwritten, hobserved, sent, hsent, hflight, hcache⟩ :=
    update_device (h.device i) writes hfits hstep
  have hframe : s'.reader = s.reader ∧ s'.seen = s.seen ∧ s'.shown = s.shown ∧
      s'.registry = s.registry ∧ ∀ j, j ≠ i → s'.device j = s.device j := by
    obtain ⟨⟨device, msg'⟩, -, hs'⟩ := Option.bind_eq_some_iff.mp hstep
    obtain rfl := Option.some.inj hs'
    exact ⟨rfl, rfl, rfl, rfl, fun j hj => Function.update_of_ne hj _ _⟩
  obtain ⟨hreader, hseen, hshown, hregistry, hothers⟩ := hframe
  constructor
  · intro j
    by_cases hj : j = i
    · exact hj ▸ hdevice
    · refine (h.device j).congr (hothers j hj) ?_ ?_
      · rw [hobserved, Function.update_of_ne hj]
      · rw [hwritten, Function.update_of_ne hj]
  · intro j
    by_cases hj : j = i
    · subst hj
      refine (h.order j).write ?_ hsent ?_ ?_ (by rw [hseen]) hreader
      · rw [hwritten, Function.update_self]
      · rw [hflight, Function.update_self]
      · rw [hcache, Function.update_self]
    · refine (h.order j).congr ?_ ?_ ?_ (by rw [hseen]) ?_
      · rw [hwritten, Function.update_of_ne hj]
      · rw [hflight, Function.update_of_ne hj]
      · rw [hcache, Function.update_of_ne hj]
      · rw [pool, hreader, hflight, Function.update_of_ne hj, pool]
  · rw [hshown, hseen]
    exact h.seen
  · obtain ⟨m, hm⟩ := h.lists
    refine ⟨m, ?_⟩
    rw [hshown, hregistry]
    apply hm.grow
    intro j k hk
    rw [hwritten]
    by_cases hj : j = i
    · subst hj
      rw [Function.update_self]
      exact List.getElem?_append_left ((h.order j).bound k (h.seen j k hk))
    · rw [Function.update_of_ne hj]

/-- A drain never faults: every sample that it takes is a message of its agent. -/
theorem drain_spec {s : Network n} (h : Invariant fleet s) (chunk : Chunk) :
    ∃ registry m, DdsTransport.tryRecv (addAnnounced fleet chunk) s.reader s.registry =
        some (left s.reader, registry) ∧
      Lists fleet s.written (note s.shown (taken s.reader)) registry m := by
  obtain ⟨m, hm⟩ := h.lists
  have htaken : ∀ a ∈ taken s.reader, Wrote fleet s a := by
    intro a ha
    have hvalid : a ∈ valid s.reader := by
      rw [← DdsTransport.taken_append_left]
      exact List.mem_append_left _ ha
    exact (h.order a.agent).wrote a (List.mem_append_left _ (mem_ofAgent.mpr ⟨hvalid, rfl⟩))
  obtain ⟨registry, m', hrun, hlists⟩ := hm.addAll htaken chunk
  exact ⟨registry, m', by rw [DdsTransport.tryRecv_eq, hrun]; rfl, hlists⟩

theorem invariant_serverUpdate {s s' : Network n} (h : Invariant fleet s) {chunk : Chunk}
    (hstep : step fleet s (.serverUpdate chunk) = some s') : Invariant fleet s' := by
  obtain ⟨registry, m, hrun, hlists⟩ := drain_spec h chunk
  simp only [step, hrun, Option.bind_eq_bind, Option.bind_some, Option.some.injEq] at hstep
  subst hstep
  refine ⟨h.devices rfl rfl rfl, ?_, ?_, m, hlists⟩
  · exact fun i => (h.order i).drain rfl rfl rfl rfl rfl
  · intro i k hk
    simp only [note_eq, lastNumber] at hk ⊢
    rcases Option.or_eq_some_iff.mp hk with hlast | ⟨hnone, hold⟩
    · rw [hlast]
      rfl
    · rw [hnone, h.seen i k hold]
      rfl

theorem invariant_step {s s' : Network n} {e : Event n} (h : Invariant fleet s)
    (hfits : Fits fleet s e) (hstep : step fleet s e = some s') : Invariant fleet s' := by
  cases e with
  | update i netInterface o writes => exact invariant_update h hfits hstep
  | serverUpdate chunk => exact invariant_serverUpdate h hstep
  | overwritten i k =>
    simp only [step] at hstep
    split at hstep
    · next hk =>
      obtain rfl := Option.some.inj hstep
      refine ⟨h.devices rfl rfl rfl, ?_, h.seen, h.lists⟩
      intro j
      by_cases hj : j = i
      · subst hj
        exact (h.order j).overwritten hk
      · refine (h.order j).congr rfl ?_ rfl rfl ?_
        · simp only [Function.update_of_ne hj]
        · simp only [pool, Function.update_of_ne hj]
    · cases hstep
  | arrives i keepLast =>
    simp only [step] at hstep
    split at hstep
    · cases hstep
    · next a rest hflight =>
      obtain rfl := Option.some.inj hstep
      exact ⟨h.devices rfl rfl rfl, inOrder_arrives h.order hflight keepLast, h.seen, h.lists⟩
  | notice i =>
    obtain rfl := Option.some.inj hstep
    refine ⟨h.devices rfl rfl rfl, ?_, h.seen, h.lists⟩
    intro j
    refine (h.order j).congr rfl rfl rfl rfl ?_
    simp only [pool, DdsTransport.valid_append]
    rw [show valid [(⟨false, i, 0, blank (fleet.id i)⟩ : Sample (Announced n))] = [] from rfl,
      List.append_nil]
  | lost i =>
    obtain ⟨m, hm⟩ := h.lists
    obtain ⟨registry, m', hdel, hlists⟩ := hm.lose i
    simp only [step, hdel, Option.map_some, Option.some.injEq] at hstep
    subst hstep
    refine ⟨h.devices rfl rfl rfl, fun j => (h.order j).congr rfl rfl rfl rfl rfl, ?_, m', hlists⟩
    intro j k hk
    by_cases hj : j = i
    · subst hj
      simp at hk
    · simp only [Function.update_of_ne hj] at hk
      exact h.seen j k hk
  | reinit =>
    obtain ⟨registry, -, rfl⟩ := Option.map_eq_some_iff.mp hstep
    refine ⟨h.devices rfl rfl rfl, fun j => (h.order j).resend rfl rfl rfl rfl rfl, nofun,
      noDevices, represents_init _, fun _ => rfl, ?_⟩
    intro id hid
    simp [noDevices] at hid

theorem invariant_execution {s : Network n}
    (h : Execution (step fleet) (Fits fleet) (initial fleet) s) : Invariant fleet s :=
  h.invariant invariant_initial fun _ _ _ hi hg hs => invariant_step hi hg hs

/-- What the list says of a device, without what an update does not compare. -/
def infoTexts (info : DeviceInfo) : Texts := ⟨info.host, info.ip, info.mac, info.devinfo⟩

/-- Nothing of the device is under way, its last message was written, and it was not reported
lost since that message was taken. -/
structure Settled (s : Network n) (i : Fin n) : Prop where
  quiet : pool s i = []
  wrote : (s.cache i).map (fun c => c.number + 1) = some (s.written i).length
  listed : (s.shown i).isSome

theorem created_list {s : Network n} (h : Invariant fleet s) :
    ∃ list m, devinfoServerCreateList s.registry = some list ∧
      Lists fleet s.written s.shown s.registry m ∧ (list.map DeviceInfo.deviceID).Nodup ∧
      ∀ info, info ∈ list ↔ ∃ e, m info.deviceID = some e ∧ e.fields = info := by
  obtain ⟨m, hm⟩ := h.lists
  obtain ⟨t, ht, hr, hlen⟩ := hm.represents.table
  obtain ⟨hnodup, hmem⟩ := createList_meets hr
  exact ⟨_, m, createList_table ht hlen, hm, hnodup, hmem⟩

theorem listed_message {s : Network n} {m : DeviceMap}
    (hm : Lists fleet s.written s.shown s.registry m) {info : DeviceInfo} {e : Entry}
    (he : m info.deviceID = some e) (hinfo : e.fields = info) :
    ∃ i k msg, info.deviceID = fleet.id i ∧ s.shown i = some k ∧
      (s.written i)[k]? = some msg ∧ info = copyInfo msg := by
  obtain ⟨i, hi⟩ := hm.known _ (Option.isSome_of_mem he)
  have hentry := hm.entry i
  rw [← hi, he, Option.map_some] at hentry
  obtain ⟨k, hk, hfor⟩ := Option.bind_eq_some_iff.mp hentry.symm
  obtain ⟨msg, hmsg, hpair⟩ := Option.map_eq_some_iff.mp hfor
  refine ⟨i, k, msg, hi, hk, hmsg, ?_⟩
  rw [← hinfo]
  exact (Prod.mk.inj hpair).1.symm

/-- In every run with observations that fit the buffers, a created list has no device twice, each
entry is one message of its agent as a whole, and a device that has settled is there with what it
last observed. The drains and loss callbacks of the server do not fault. -/
theorem list_shows_devices {s : Network n}
    (h : Execution (step fleet) (Fits fleet) (initial fleet) s) :
    (∃ list, devinfoServerCreateList s.registry = some list ∧
      (list.map DeviceInfo.deviceID).Nodup ∧
      (∀ info ∈ list, ∃ i, ∃ msg ∈ s.written i, info = copyInfo msg ∧
        info.deviceID = fleet.id i) ∧
      ∀ i, Settled s i → ∃ info ∈ list, info.deviceID = fleet.id i ∧
        infoTexts info = s.observed i) ∧
    (∀ chunk, (step fleet s (.serverUpdate chunk)).isSome) ∧
    ∀ i, (step fleet s (.lost i)).isSome := by
  have hinv := invariant_execution h
  obtain ⟨list, m, hlist, hm, hnodup, hmem⟩ := created_list hinv
  refine ⟨⟨list, hlist, hnodup, ?_, ?_⟩, ?_, ?_⟩
  · intro info hinfo
    obtain ⟨e, he, hfields⟩ := (hmem info).mp hinfo
    obtain ⟨i, k, msg, hid, -, hmsg, hcopy⟩ := listed_message hm he hfields
    exact ⟨i, msg, List.mem_of_getElem? hmsg, hcopy, hid⟩
  · rintro i ⟨hquiet, hwrote, hshown⟩
    obtain ⟨k, hk⟩ := Option.isSome_iff_exists.mp hshown
    obtain ⟨c, hc, hnum⟩ := Option.map_eq_some_iff.mp hwrote
    have hlast := (hinv.order i).last
    rw [hquiet, hc, hinv.seen i k hk] at hlast
    obtain rfl : k = c.number := Option.some.inj hlast
    -- the message that is shown is the last one of the agent
    have hne : s.written i ≠ [] := by
      intro he
      rw [he] at hnum
      simp at hnum
    obtain ⟨msg, hmsg, htexts⟩ := (hinv.device i).latest hne
    have hget : (s.written i)[c.number]? = some msg := by
      rw [← Option.mem_def.mp hmsg, List.getLast?_eq_getElem?, ← hnum]
      rfl
    have hentry := hm.entry i
    rw [hk, Option.bind_some, entryFor, hget, Option.map_some] at hentry
    obtain ⟨e, he, hpair⟩ := Option.map_eq_some_iff.mp hentry
    have hfields : e.fields = copyInfo msg := (Prod.mk.inj hpair).1
    have hid : (copyInfo msg).deviceID = fleet.id i :=
      (hinv.device i).ids msg (List.mem_of_getElem? hget)
    refine ⟨copyInfo msg, (hmem _).mpr ⟨e, ?_, hfields⟩, hid, htexts⟩
    rw [hid]
    exact he
  · intro chunk
    obtain ⟨registry, m', hrun, -⟩ := drain_spec hinv chunk
    simp only [step, hrun, Option.bind_eq_bind, Option.bind_some, Option.isSome_some]
  · intro i
    obtain ⟨registry, m', hdel, -⟩ := hm.lose i
    simp only [step, hdel, Option.map_some, Option.isSome_some]

instance (s : Network n) (e : Event n) : Decidable (Fits fleet s e) := by
  cases e <;> unfold Fits <;> infer_instance

instance (s : Network n) (i : Fin n) : Decidable (Settled s i) :=
  decidable_of_iff (pool s i = [] ∧
    (s.cache i).map (fun c => c.number + 1) = some (s.written i).length ∧ (s.shown i).isSome)
    ⟨fun ⟨hquiet, hwrote, hlisted⟩ => ⟨hquiet, hwrote, hlisted⟩,
      fun ⟨hquiet, hwrote, hlisted⟩ => ⟨hquiet, hwrote, hlisted⟩⟩

def rovers : Fleet 2 where
  cfg i :=
    { netInterface := [], autoDetectInterface := true, deviceId := i.val + 7, devinfoSize := 8 }
  devinfoFunc _ := true
  handle i := i.val
  projectVersion := "0.9.8".toList
  sizes _ := Nat.succ_pos _
  ids i j h := Fin.ext (Nat.add_right_cancel h)
  handles i j h := Fin.ext h
  size := by decide

def atDock : DevinfoAgent.Observation :=
  ⟨"rover".toList, "10.0.0.2".toList, "00:30:64:0a:0b:0c".toList, "ok".toList, []⟩

def atSea : DevinfoAgent.Observation :=
  ⟨"rover".toList, "10.0.0.3".toList, "00:30:64:0d:0e:0f".toList, "low".toList, []⟩

def chunk : Chunk := ⟨HeapChain.Malloc.bump, .done, emptyResult⟩

def rover : Fin 2 := ⟨0, Nat.zero_lt_two⟩

def lander : Fin 2 := ⟨1, Nat.one_lt_two⟩

def docked : List (Event 2) :=
  [.update rover "eth0".toList atDock true, .update lander "eth0".toList atDock true,
    .arrives rover false, .serverUpdate chunk]

def sailed : List (Event 2) :=
  [.update rover "wlan0".toList atSea true, .arrives rover true, .notice lander,
    .serverUpdate chunk]

theorem list_shows_devices_rovers : ∃ s list,
    runEvents (guarded (step rovers) (Fits rovers)) (initial rovers) (docked ++ sailed) = some s ∧
      devinfoServerCreateList s.registry = some list ∧
      ∃ info ∈ list, info.deviceID = 7 ∧ infoTexts info = s.observed rover := by
  obtain ⟨s, hs, hexec, hsettled⟩ := exists_execution (step rovers) (Fits rovers)
    (initial rovers) (fun s => Settled s rover) (docked ++ sailed) (by decide +kernel)
  obtain ⟨⟨list, hlist, -, -, hshows⟩, -, -⟩ := list_shows_devices hexec
  exact ⟨s, list, hs, hlist, hshows rover hsettled⟩

/-- What a step adds to the messages of an agent, and to the numbers of those that were taken. -/
structure Advances (s s' : Network n) : Prop where
  written : ∀ i, s.written i <+: s'.written i
  seen : ∀ i k, s.seen i = some k → ∃ k', s'.seen i = some k' ∧ k ≤ k'

theorem Advances.same {s s' : Network n} (hwritten : s'.written = s.written)
    (hseen : s'.seen = s.seen) : Advances s s' := by
  refine ⟨fun i => ?_, fun i k hk => ⟨k, ?_, le_rfl⟩⟩
  · rw [hwritten]
  · rw [hseen]
    exact hk

theorem Advances.trans {s s' s'' : Network n} (h : Advances s s') (h' : Advances s' s'') :
    Advances s s'' := by
  refine ⟨fun i => (h.written i).trans (h'.written i), ?_⟩
  intro i k hk
  obtain ⟨k', hk', hle⟩ := h.seen i k hk
  obtain ⟨k'', hk'', hle'⟩ := h'.seen i k' hk'
  exact ⟨k'', hk'', hle.trans hle'⟩

theorem advances_step {s s' : Network n} {e : Event n} (h : Invariant fleet s)
    (hfits : Fits fleet s e) (hstep : step fleet s e = some s') : Advances s s' := by
  cases e with
  | update i netInterface o writes =>
    obtain ⟨-, msg, hwritten, -, -⟩ := update_device (h.device i) writes hfits hstep
    obtain ⟨⟨device, msg'⟩, -, hs'⟩ := Option.bind_eq_some_iff.mp hstep
    have hseen : s'.seen = s.seen := by
      obtain rfl := Option.some.inj hs'
      rfl
    refine ⟨?_, fun j k hk => ⟨k, hseen ▸ hk, le_rfl⟩⟩
    intro j
    rw [hwritten]
    by_cases hj : j = i
    · subst hj
      rw [Function.update_self]
      exact List.prefix_append _ _
    · rw [Function.update_of_ne hj]
  | serverUpdate chunk =>
    obtain ⟨registry, m, hrun, -⟩ := drain_spec h chunk
    simp only [step, hrun, Option.bind_eq_bind, Option.bind_some, Option.some.injEq] at hstep
    subst hstep
    refine ⟨fun _ => List.prefix_rfl, ?_⟩
    intro i k hk
    simp only [note_eq, lastNumber]
    cases hlast : (ofAgent i (taken s.reader)).getLast? with
    | none => exact ⟨k, hk, le_rfl⟩
    | some a =>
      have hmem : a ∈ pool s i := by
        rw [pool, ← DdsTransport.taken_append_left s.reader, ofAgent_append]
        exact List.mem_append_left _ (List.mem_append_left _ (List.mem_of_getLast? hlast))
      exact ⟨a.number, rfl, (h.order i).later k hk a hmem⟩
  | overwritten i k =>
    simp only [step] at hstep
    split at hstep
    · obtain rfl := Option.some.inj hstep
      exact .same rfl rfl
    · cases hstep
  | arrives i keepLast =>
    simp only [step] at hstep
    split at hstep
    · cases hstep
    · obtain rfl := Option.some.inj hstep
      exact .same rfl rfl
  | notice i =>
    obtain rfl := Option.some.inj hstep
    exact .same rfl rfl
  | lost i =>
    obtain ⟨registry, -, rfl⟩ := Option.map_eq_some_iff.mp hstep
    exact .same rfl rfl
  | reinit =>
    obtain ⟨registry, -, rfl⟩ := Option.map_eq_some_iff.mp hstep
    exact .same rfl rfl

theorem advances_execution {s s' : Network n} (h : Invariant fleet s)
    (h' : Execution (step fleet) (Fits fleet) s s') : Invariant fleet s' ∧ Advances s s' := by
  apply h'.invariant (I := fun s' => Invariant fleet s' ∧ Advances s s') ⟨h, .same rfl rfl⟩
  rintro u e v ⟨hinv, hadv⟩ hfits hstep
  exact ⟨invariant_step hinv hfits hstep, hadv.trans (advances_step hinv hfits hstep)⟩

/-- If two lists of a run both have a device, the later one shows the same message of its agent as
the earlier one, or one that was written later. -/
theorem list_never_goes_back {s s' : Network n}
    (h : Execution (step fleet) (Fits fleet) (initial fleet) s)
    (h' : Execution (step fleet) (Fits fleet) s s') {list list' : List DeviceInfo}
    (hlist : devinfoServerCreateList s.registry = some list)
    (hlist' : devinfoServerCreateList s'.registry = some list') {info info' : DeviceInfo}
    (hinfo : info ∈ list) (hinfo' : info' ∈ list') (hid : info.deviceID = info'.deviceID) :
    ∃ i k k' msg msg', info.deviceID = fleet.id i ∧ k ≤ k' ∧
      (s'.written i)[k]? = some msg ∧ info = copyInfo msg ∧ s.shown i = some k ∧
      (s'.written i)[k']? = some msg' ∧ info' = copyInfo msg' ∧ s'.shown i = some k' := by
  have hinv := invariant_execution h
  obtain ⟨hinv', hadv⟩ := advances_execution hinv h'
  obtain ⟨l, m, hl, hm, -, hmem⟩ := created_list hinv
  obtain ⟨l', m', hl', hm', -, hmem'⟩ := created_list hinv'
  obtain rfl := Option.some.inj (hl.symm.trans hlist)
  obtain rfl := Option.some.inj (hl'.symm.trans hlist')
  obtain ⟨e, he, hfields⟩ := (hmem info).mp hinfo
  obtain ⟨e', he', hfields'⟩ := (hmem' info').mp hinfo'
  obtain ⟨i, k, msg, hi, hk, hmsg, hcopy⟩ := listed_message hm he hfields
  obtain ⟨j, k', msg', hj, hk', hmsg', hcopy'⟩ := listed_message hm' he' hfields'
  obtain rfl : i = j := fleet.ids (hi.symm.trans (hid.trans hj))
  obtain ⟨k'', hk'', hle⟩ := hadv.seen i k (hinv.seen i k hk)
  obtain rfl : k'' = k' := Option.some.inj (hk''.symm.trans (hinv'.seen i k' hk'))
  refine ⟨i, k, k'', msg, msg', hi, hle, ?_, hcopy, hk, hmsg', hcopy', hk'⟩
  obtain ⟨more, hmore⟩ := hadv.written i
  rw [← hmore, List.getElem?_append_left (List.getElem?_eq_some_iff.mp hmsg).1]
  exact hmsg

theorem list_never_goes_back_rovers : ∃ s s' list list' k k',
    runEvents (guarded (step rovers) (Fits rovers)) (initial rovers) docked = some s ∧
      runEvents (guarded (step rovers) (Fits rovers)) s sailed = some s' ∧
      devinfoServerCreateList s.registry = some list ∧
      devinfoServerCreateList s'.registry = some list' ∧
      s.shown rover = some k ∧ s'.shown rover = some k' ∧ k ≤ k' := by
  obtain ⟨s, hs, hexec, hmore⟩ := exists_execution (step rovers) (Fits rovers) (initial rovers)
    (fun s => (runEvents (guarded (step rovers) (Fits rovers)) s sailed).any (fun s' =>
      ((devinfoServerCreateList s.registry).getD []).map DeviceInfo.deviceID = [7] ∧
      ((devinfoServerCreateList s'.registry).getD []).map DeviceInfo.deviceID = [7]) = true)
    docked (by decide +kernel)
  obtain ⟨s', hs', hids⟩ := (Option.any_eq_true _ _).mp hmore
  obtain ⟨hids, hids'⟩ := of_decide_eq_true hids
  have hexec' : Execution (step rovers) (Fits rovers) s s' := execution_of_runEvents .refl hs'
  have hinv := invariant_execution hexec
  obtain ⟨list, m, hlist, -, -, -⟩ := created_list hinv
  obtain ⟨list', m', hlist', -, -, -⟩ := created_list (advances_execution hinv hexec').1
  rw [hlist] at hids
  rw [hlist'] at hids'
  obtain ⟨info, l, rfl, hid, -⟩ := List.map_eq_cons_iff.mp hids
  obtain ⟨info', l', rfl, hid', -⟩ := List.map_eq_cons_iff.mp hids'
  obtain ⟨i, k, k', msg, msg', hi, hle, -, -, hk, -, -, hk'⟩ := list_never_goes_back hexec hexec'
    hlist hlist' List.mem_cons_self List.mem_cons_self (hid.trans hid'.symm)
  obtain rfl : rover = i := rovers.ids (hid.symm.trans hi)
  exact ⟨s, s', _, _, k, k', hs, hs', hlist, hlist', hk, hk', hle⟩

end DiscoveryCorrectness
