import RmtLibrary.DeviceRegistry

/-! # Loss callbacks on the device registry

Devices enter the registry when the DeviceInfo reader is polled and leave it in the listener
callbacks of `dds_transport.c`. Both name an entry by the publication handle of its writer. -/
namespace DeviceCallbacks

open DevinfoServer
open DeviceRegistry

def devinfoServerDelDeviceCallback (internalId : ℕ) (s : Registry) : Option Registry :=
  delDevice internalId s

def callbackLivelinessChanged (notAliveCount lastPublicationHandle : ℕ) (s : Registry) :
    Option Registry :=
  if notAliveCount ≠ 0 then devinfoServerDelDeviceCallback lastPublicationHandle s else some s

def callbackSubscriptionMatched (currentCountChange : ℤ) (lastPublicationHandle : ℕ)
    (s : Registry) : Option Registry :=
  if currentCountChange < 0 then devinfoServerDelDeviceCallback lastPublicationHandle s
  else some s

def devices (s : Registry) : Option (List DevList) :=
  HeapChain.copyCounted s.heap s.heap.keys.card s.gDevHead

/-- The handles that registry entries carry, where handle `h` announces device `deviceOf h`. -/
def Registered (deviceOf : ℕ → ℕ) (s : Registry) (handles : Set ℕ) : Prop :=
  ∃ m t, HandlesOf deviceOf m ∧ HoldsTable s t ∧ Refines t m ∧
    ∀ h, h ∈ handles ↔ ∃ e, m (deviceOf h) = some e ∧ e.handle = h

variable {deviceOf : ℕ → ℕ} {s : Registry} {handles : Set ℕ}

theorem registered_init (deviceOf : ℕ → ℕ) : Registered deviceOf devinfoServerInit ∅ := by
  refine ⟨noDevices, [], ?_, holdsTable_init, refines_init, ?_⟩
  · intro id e he
    simp [noDevices] at he
  · simp [noDevices]

/-- An announcement takes the entry of its device over from any other handle. -/
theorem Registered.add (h : Registered deviceOf s handles) (chunk : Chunk)
    {msg : Idl.DeviceInfoMsg} {arg : ℕ} (hmsg : deviceOf arg = msg.deviceID) :
    ∃ s', addDevice chunk msg arg s = some s' ∧
      Registered deviceOf s' (insert arg {h ∈ handles | deviceOf h ≠ deviceOf arg}) := by
  obtain ⟨m, t, hm, ht, hr, hmem⟩ := h
  obtain ⟨s', hs', ht'⟩ := addDevice_table ht chunk msg arg
  have hm' : HandlesOf deviceOf (mapNext m (.addDevice chunk msg arg)) := handlesOf_next hm hmsg
  refine ⟨s', hs', _, _, hm', ht', addDevice_refines hr chunk msg arg, ?_⟩
  intro h
  simp only [Set.mem_insert_iff, Set.mem_ofPred_eq, hmem, mapNext]
  by_cases hd : deviceOf h = deviceOf arg
  · rw [hd, hmsg, Function.update_self]
    simp [eq_comm]
  · rw [Function.update_of_ne (hmsg ▸ hd)]
    have hne : h ≠ arg := fun he => hd (congrArg deviceOf he)
    simp [hd, hne]

theorem Registered.del (h : Registered deviceOf s handles) (internalId : ℕ) :
    ∃ s', delDevice internalId s = some s' ∧ Registered deviceOf s' (handles \ {internalId}) := by
  obtain ⟨m, t, hm, ht, hr, hmem⟩ := h
  obtain ⟨s', hs', ht'⟩ := delDevice_table ht internalId
  have hm' : HandlesOf deviceOf (mapNext m (.delDevice internalId)) := handlesOf_next hm trivial
  refine ⟨s', hs', _, _, hm', ht', delDevice_refines hr hm internalId, ?_⟩
  intro h
  simp only [Set.mem_sdiff, Set.mem_singleton_iff, hmem, mapNext, Option.filter_eq_some_iff,
    bne_iff_ne, ne_eq]
  constructor
  · rintro ⟨⟨e, he, rfl⟩, hne⟩
    exact ⟨e, ⟨he, hne⟩, rfl⟩
  · rintro ⟨e, ⟨he, hne⟩, rfl⟩
    exact ⟨⟨e, he, rfl⟩, hne⟩

theorem Registered.livelinessChanged (h : Registered deviceOf s handles)
    (notAliveCount handle : ℕ) :
    ∃ s', callbackLivelinessChanged notAliveCount handle s = some s' ∧
      Registered deviceOf s' (if notAliveCount = 0 then handles else handles \ {handle}) := by
  by_cases hn : notAliveCount = 0
  · exact ⟨s, by simp [callbackLivelinessChanged, hn], by simpa [hn] using h⟩
  · obtain ⟨s', hs', hr⟩ := h.del handle
    refine ⟨s', ?_, by simpa [hn] using hr⟩
    rw [callbackLivelinessChanged, if_pos hn]
    exact hs'

theorem Registered.unmatched (h : Registered deviceOf s handles) (handle : ℕ) :
    ∃ s', callbackSubscriptionMatched (-1) handle s = some s' ∧
      Registered deviceOf s' (handles \ {handle}) := by
  obtain ⟨s', hs', hr⟩ := h.del handle
  refine ⟨s', ?_, hr⟩
  rw [callbackSubscriptionMatched, if_pos (by decide)]
  exact hs'

theorem Registered.walk (h : Registered deviceOf s handles) :
    ∃ t, devices s = some t ∧
      (∀ dev ∈ t, dev.internalId ∈ handles ∧ dev.info.deviceID = deviceOf dev.internalId) ∧
      ∀ h ∈ handles, ∃ dev ∈ t, dev.internalId = h := by
  obtain ⟨m, t, hm, ht, hr, hmem⟩ := h
  have hwalk : devices s = some t := by
    rw [devices, ht.owned.card]
    exact ht.owned.copyCounted
  refine ⟨t, hwalk, ?_, ?_⟩
  · intro dev hd
    obtain ⟨e, he, heq⟩ := hr.entry hd
    have hdev : deviceOf dev.internalId = dev.info.deviceID := by
      rw [heq.handle]
      exact hm _ e he
    refine ⟨(hmem _).mpr ⟨e, ?_, heq.handle.symm⟩, hdev.symm⟩
    rw [hdev]
    exact he
  · intro h hh
    obtain ⟨e, he, rfl⟩ := (hmem h).mp hh
    rcases hr.lookup_cases (deviceOf e.handle) with ⟨-, hnone⟩ | ⟨dev, e', hf, he', heq⟩
    · simp [hnone] at he
    · obtain rfl : e' = e := Option.some.inj (he'.symm.trans he)
      exact ⟨dev, (find?_hasId_some hf).1, heq.handle⟩

end DeviceCallbacks
