import RmtLibrary.DevinfoServer
import Mathlib.Data.Finset.Card

/-! # What the device registry is for

Two descriptions above the linked list. The table is the list of devices in list order, without
addresses and counter. The device map says, for each device ID, what was announced last, by
which publication handle, and which transfer status was set last, if one was. -/
namespace DeviceRegistry

open GuardedExecution
open HeapChain (Owned updateFirst)
open DevinfoServer

def reannounce (info : DeviceInfo) (arg : ℕ) (dev : DevList) : DevList :=
  { dev with info, internalId := arg }

def withStatus (st : TransferStatus) (res : TransferResult) (dev : DevList) : DevList :=
  { dev with agentTransferStatus := st, transferResult := res }

def tableAdd (chunk : Chunk) (info : DeviceInfo) (arg : ℕ) (t : List DevList) : List DevList :=
  if t.any (hasId info.deviceID) then
    updateFirst (hasId info.deviceID) (reannounce info arg) t
  else ⟨info, chunk.agentTransferStatus, chunk.transferResult, arg⟩ :: t

def tableDel (internalId : ℕ) (t : List DevList) : List DevList :=
  t.eraseP (hasInternalId internalId)

def tableSetStatus (num id : ℕ) (st : TransferStatus) (res : TransferResult)
    (t : List DevList) : List DevList :=
  if (t.take num).any (hasId id) then updateFirst (hasId id) (withStatus st res) t else t

def tableGetStatus (num id : ℕ) (t : List DevList) : TransferStatus × TransferResult :=
  match (t.take num).find? (hasId id) with
  | none => (.agentError, emptyResult)
  | some dev => (dev.agentTransferStatus, dev.transferResult)

theorem tableSetStatus_all (id : ℕ) (st : TransferStatus) (res : TransferResult)
    (t : List DevList) :
    tableSetStatus t.length id st res t = updateFirst (hasId id) (withStatus st res) t := by
  rw [tableSetStatus, List.take_length]
  split
  · rfl
  · next hnone =>
    symm
    apply List.lookmap_of_forall_not
    intro dev hd
    rw [Bool.not_eq_true, List.any_eq_false] at hnone
    simp [hnone dev hd]

def ids (t : List DevList) : List ℕ := t.map fun dev => dev.info.deviceID

/-- The list from `g_dev_head` on holds the devices of `t`, and the counter counts them. -/
structure HoldsTable (s : Registry) (t : List DevList) : Prop where
  owned : Owned s.heap s.gDevHead t
  counted : s.gDevNum = BitVec.ofNat 32 t.length

theorem holdsTable_init : HoldsTable devinfoServerInit [] :=
  ⟨HeapChain.owned_empty, rfl⟩

theorem HoldsTable.count {s : Registry} {t : List DevList} (h : HoldsTable s t)
    (ht : t.length < 2 ^ 32) : s.gDevNum.toNat = t.length := by
  rw [h.counted, BitVec.toNat_ofNat, Nat.mod_eq_of_lt ht]

theorem HoldsTable.count_le {s : Registry} {t : List DevList} (h : HoldsTable s t) :
    s.gDevNum.toNat ≤ t.length := by
  rw [h.counted, BitVec.toNat_ofNat]
  exact Nat.mod_le _ _

theorem addDevice_table {s : Registry} {t : List DevList} (h : HoldsTable s t) (chunk : Chunk)
    (msg : Idl.DeviceInfoMsg) (arg : ℕ) : ∃ s', addDevice chunk msg arg s = some s' ∧
      HoldsTable s' (tableAdd chunk (copyInfo msg) arg t) := by
  cases ha : t.any (hasId msg.deviceID) with
  | false =>
    have hnone : ∀ dev ∈ t, hasId msg.deviceID dev = false := by simpa using ha
    have hadd : tableAdd chunk (copyInfo msg) arg t =
        ⟨copyInfo msg, chunk.agentTransferStatus, chunk.transferResult, arg⟩ :: t := by
      simp [tableAdd, copyInfo, ha]
    rw [hadd]
    have hfind := h.owned.find_none hnone
    refine ⟨_, by simp only [addDevice, hfind]; rfl, h.owned.push (chunk.fresh _) _, ?_⟩
    simp [h.counted, BitVec.ofNat_add]
  | true =>
    have hsome : ∃ dev ∈ t, hasId msg.deviceID dev = true := by simpa using ha
    obtain ⟨a, heap, hf, hst, ho⟩ := h.owned.find_store hsome (reannounce (copyInfo msg) arg)
    have hadd : tableAdd chunk (copyInfo msg) arg t =
        updateFirst (hasId msg.deviceID) (reannounce (copyInfo msg) arg) t := by
      simp [tableAdd, copyInfo, ha]
    rw [hadd]
    refine ⟨{ s with heap }, ?_, ho, ?_⟩
    · simp only [addDevice, hf, Option.bind_eq_bind, Option.bind_some]
      change (HeapChain.store s.heap a (reannounce (copyInfo msg) arg)).bind _ = _
      rw [hst]
      rfl
    · rw [HeapChain.updateFirst_length]
      exact h.counted

theorem counter_decrement {n m : ℕ} (h : n = m + 1) :
    BitVec.ofNat 32 n - 1 = BitVec.ofNat 32 m := by
  subst h
  rw [BitVec.ofNat_add]
  exact BitVec.add_sub_cancel _ _

theorem delFirst_table {s : Registry} {t : List DevList} (h : HoldsTable s t)
    (matched : DevList → Bool) :
    ∃ s', delFirst matched s = some s' ∧ HoldsTable s' (t.eraseP matched) := by
  obtain ⟨heap, head, num⟩ := s
  obtain ⟨ho, hn⟩ := h
  simp only at ho hn
  cases head with
  | none =>
    obtain rfl := ho.null_iff.mp rfl
    exact ⟨_, rfl, ho, hn⟩
  | some a =>
    obtain ⟨next, dev, rest, rfl, hl, hr⟩ := ho.head
    cases hd : matched dev with
    | true =>
      rw [List.eraseP_cons_of_pos hd]
      refine ⟨⟨heap.erase a, next, num - 1⟩, by simp [delFirst, hl, hd], hr, ?_⟩
      rw [hn]
      exact counter_decrement rfl
    | false =>
      have hdel : (dev :: rest).eraseP matched = dev :: rest.eraseP matched := by simp [hd]
      rw [hdel]
      rcases ho.unlinkNext matched with ⟨hnone, hu⟩ | ⟨⟨v, hv, hpv⟩, h', hu, ho'⟩
      · refine ⟨⟨heap, some a, num⟩, by simp [delFirst, hl, hd, hu], ?_⟩
        rw [List.eraseP_of_forall_not fun v hv => by simp [hnone v hv]]
        exact ⟨ho, hn⟩
      · refine ⟨⟨h', some a, num - 1⟩, by simp [delFirst, hl, hd, hu], ho', ?_⟩
        have hlen := List.length_eraseP_of_mem hv hpv
        have hpos : 0 < rest.length := List.length_pos_of_mem hv
        rw [hn]
        exact counter_decrement (by simp only [List.length_cons]; omega)

theorem delDevice_table {s : Registry} {t : List DevList} (h : HoldsTable s t)
    (internalId : ℕ) :
    ∃ s', delDevice internalId s = some s' ∧ HoldsTable s' (tableDel internalId t) :=
  delFirst_table h (hasInternalId internalId)

theorem HoldsTable.unique {s : Registry} {t t' : List DevList} (h : HoldsTable s t)
    (h' : HoldsTable s t') : t = t' := by
  have hcopy := h.owned.copyCounted
  have hcopy' := h'.owned.copyCounted
  rw [← h.owned.card] at hcopy
  rw [← h'.owned.card, hcopy] at hcopy'
  exact Option.some.inj hcopy'

theorem createList_table {s : Registry} {t : List DevList} (h : HoldsTable s t)
    (ht : t.length < 2 ^ 32) : devinfoServerCreateList s = some (t.map DevList.info) := by
  simp [devinfoServerCreateList, h.count ht, h.owned.copyCounted]

theorem deinit_table {s : Registry} {t : List DevList} (h : HoldsTable s t) :
    devinfoServerDeinit s = some devinfoServerInit := by
  simp [devinfoServerDeinit, h.owned.card, h.owned.freeAll, h.counted, devinfoServerInit]

/-- Whether the counter lets a search reach the device, and the device is in the table then. -/
theorem window_cases (n id : ℕ) (t : List DevList) :
    ((t.take n).any (hasId id) = false ∧ ∀ dev ∈ t.take n, hasId id dev = false) ∨
    ((t.take n).any (hasId id) = true ∧ (∃ dev ∈ t.take n, hasId id dev = true) ∧
      ∃ dev ∈ t, hasId id dev = true) := by
  cases ha : (t.take n).any (hasId id) with
  | false =>
    left
    refine ⟨rfl, ?_⟩
    intro dev hd
    simpa using (List.any_eq_false.mp ha) dev hd
  | true =>
    obtain ⟨dev, hd, hdev⟩ := List.any_eq_true.mp ha
    exact Or.inr ⟨rfl, ⟨dev, hd, hdev⟩, dev, List.mem_of_mem_take hd, hdev⟩

theorem setStatusById_table {s : Registry} {t : List DevList} (h : HoldsTable s t)
    (id : ℕ) (st : TransferStatus) (res : TransferResult) :
    ∃ s', devinfoServerSetStatusById id st res s =
        some (s', if (t.take s.gDevNum.toNat).any (hasId id) then 0 else -1) ∧
      HoldsTable s' (tableSetStatus s.gDevNum.toNat id st res t) ∧ s'.gDevNum = s.gDevNum := by
  rcases window_cases s.gDevNum.toNat id t with ⟨ha, hnone⟩ | ⟨ha, hwin, hsome⟩
  · have hwalk := h.owned.findCounted_none h.count_le hnone
    have hkeep : tableSetStatus s.gDevNum.toNat id st res t = t := by simp [tableSetStatus, ha]
    rw [hkeep]
    exact ⟨s, by simp [devinfoServerSetStatusById, hwalk, ha], h, rfl⟩
  · have hwalk := h.owned.findCounted_eq h.count_le hwin
    obtain ⟨a, heap, hf, hst, ho⟩ := h.owned.find_store hsome (withStatus st res)
    have hset : tableSetStatus s.gDevNum.toNat id st res t =
        updateFirst (hasId id) (withStatus st res) t := by simp [tableSetStatus, ha]
    rw [hset, ha]
    refine ⟨{ s with heap }, ?_, ⟨ho, ?_⟩, rfl⟩
    · simp only [devinfoServerSetStatusById, hwalk, hf, Option.bind_eq_bind, Option.bind_some]
      change (HeapChain.store s.heap a (withStatus st res)).bind _ = _
      rw [hst]
      rfl
    · rw [HeapChain.updateFirst_length]
      exact h.counted

theorem getStatusById_table {s : Registry} {t : List DevList} (h : HoldsTable s t) (id : ℕ) :
    devinfoServerGetStatusById id s = some (tableGetStatus s.gDevNum.toNat id t) := by
  rcases window_cases s.gDevNum.toNat id t with ⟨-, hnone⟩ | ⟨-, hwin, hsome⟩
  · have hfind : (t.take s.gDevNum.toNat).find? (hasId id) = none := by
      rw [List.find?_eq_none]
      intro dev hd
      simp [hnone dev hd]
    have hwalk := h.owned.findCounted_none h.count_le hnone
    simp [devinfoServerGetStatusById, hwalk, tableGetStatus, hfind]
  · have hwalk := h.owned.findCounted_eq h.count_le hwin
    obtain ⟨pre, a, dev, post, next, rfl, hpre, hv, hf, hl, -⟩ := h.owned.find_some hsome
    have hfind : (pre ++ dev :: post).find? (hasId id) = some dev :=
      List.find?_eq_some_iff_append.mpr ⟨hv, pre, post, rfl, by simpa using hpre⟩
    have hfirst : ((pre ++ dev :: post).take s.gDevNum.toNat).find? (hasId id) = some dev := by
      have hsplit : ((pre ++ dev :: post).take s.gDevNum.toNat ++
          (pre ++ dev :: post).drop s.gDevNum.toNat).find? (hasId id) = _ := List.find?_append
      obtain ⟨dev', hdev'⟩ := Option.isSome_iff_exists.mp (List.find?_isSome.mpr hwin)
      rw [List.take_append_drop, hfind, hdev'] at hsplit
      rw [hdev']
      exact hsplit.symm
    simp [devinfoServerGetStatusById, hwalk, hf, hl, tableGetStatus, hfirst]

/-- `status` is what was set last since the device was created, if it was set at all. -/
structure Entry where
  fields : DeviceInfo
  handle : ℕ
  status : Option (TransferStatus × TransferResult)
  deriving DecidableEq, Repr

abbrev DeviceMap := ℕ → Option Entry

def noDevices : DeviceMap := fun _ => none

/-- An announcement replaces fields and handle and keeps the status. A loss removes the device
whose latest announcement came from the lost handle. -/
def mapNext (m : DeviceMap) : Call → DeviceMap
  | .addDevice _ msg arg => Function.update m msg.deviceID
      (some ⟨copyInfo msg, arg, (m msg.deviceID).bind Entry.status⟩)
  | .delDevice internalId => fun id => (m id).filter (·.handle != internalId)
  | .setStatusById id st res => Function.update m id
      ((m id).map fun e => { e with status := some (st, res) })
  | .getStatusById _ => m
  | .createList => m
  | .reinit => noDevices

def AnswerMeets (m : DeviceMap) : Call → Answer → Prop
  | .getStatusById id, .status st res =>
    match m id with
    | none => st = .agentError ∧ res = emptyResult
    | some e => ∀ p, e.status = some p → (st, res) = p
  | .setStatusById id _ _, .code ret => ret = if (m id).isSome then 0 else -1
  | .createList, .list dev => (dev.map DeviceInfo.deviceID).Nodup ∧
      ∀ info, info ∈ dev ↔ ∃ e, m info.deviceID = some e ∧ e.fields = info
  | .addDevice .., .void => True
  | .delDevice _, .void => True
  | .reinit, .void => True
  | _, _ => False

structure EntryOf (dev : DevList) (e : Entry) : Prop where
  fields : dev.info = e.fields
  handle : dev.internalId = e.handle
  status : ∀ p, e.status = some p → (dev.agentTransferStatus, dev.transferResult) = p

structure Refines (t : List DevList) (m : DeviceMap) : Prop where
  distinct : (ids t).Nodup
  lookup : ∀ id, Option.Rel EntryOf (t.find? (hasId id)) (m id)

/-- The counter can hold the number of devices that are registered after the call. -/
def FitsCounter (m : DeviceMap) (c : Call) : Prop :=
  ∃ registered : Finset ℕ, (∀ id, (mapNext m c id).isSome → id ∈ registered) ∧
    registered.card < 2 ^ 32

def OneDevicePerHandle (calls : List Call) : Prop :=
  ∀ chunk msg arg chunk' msg', .addDevice chunk msg arg ∈ calls →
    .addDevice chunk' msg' arg ∈ calls → msg.deviceID = msg'.deviceID

/-- Every handle in the map belongs to the one device it announces. -/
def HandlesOf (owner : ℕ → ℕ) (m : DeviceMap) : Prop :=
  ∀ id e, m id = some e → owner e.handle = id

def Announces (owner : ℕ → ℕ) : Call → Prop
  | .addDevice _ msg arg => owner arg = msg.deviceID
  | _ => True

theorem refines_init : Refines [] noDevices := ⟨List.nodup_nil, fun _ => .none⟩

theorem find?_hasId_some {t : List DevList} {id : ℕ} {dev : DevList}
    (h : t.find? (hasId id) = some dev) : dev ∈ t ∧ dev.info.deviceID = id :=
  ⟨List.mem_of_find?_eq_some h, by simpa [hasId] using List.find?_some h⟩

theorem find?_hasId_mem {t : List DevList} (hd : (ids t).Nodup) {dev : DevList} (hm : dev ∈ t) :
    t.find? (hasId dev.info.deviceID) = some dev := by
  induction t with
  | nil => simp at hm
  | cons v t ih =>
    simp only [ids, List.map_cons, List.nodup_cons, List.mem_map, not_exists, not_and] at hd
    rcases List.mem_cons.mp hm with rfl | hm
    · simp [hasId]
    · have hne : v.info.deviceID ≠ dev.info.deviceID := fun he => hd.1 dev hm he.symm
      rw [List.find?_cons_of_neg (by simpa [hasId] using hne)]
      exact ih hd.2 hm

theorem Refines.lookup_cases {t : List DevList} {m : DeviceMap} (h : Refines t m) (id : ℕ) :
    (t.find? (hasId id) = none ∧ m id = none) ∨
    ∃ dev e, t.find? (hasId id) = some dev ∧ m id = some e ∧ EntryOf dev e := by
  have hl := h.lookup id
  generalize t.find? (hasId id) = found at hl ⊢
  generalize m id = entry at hl ⊢
  cases hl with
  | none => exact Or.inl ⟨rfl, rfl⟩
  | some hr => exact Or.inr ⟨_, _, rfl, rfl, hr⟩

theorem Refines.mapped_iff {t : List DevList} {m : DeviceMap} (h : Refines t m) (id : ℕ) :
    (m id).isSome ↔ id ∈ ids t := by
  rcases h.lookup_cases id with ⟨hf, hm⟩ | ⟨dev, e, hf, hm, -⟩
  · have hnot : id ∉ ids t := by
      intro hid
      obtain ⟨dev, hd, rfl⟩ := List.mem_map.mp hid
      simp [find?_hasId_mem h.distinct hd] at hf
    simp [hm, hnot]
  · obtain ⟨hd, rfl⟩ := find?_hasId_some hf
    have hid : dev.info.deviceID ∈ ids t := List.mem_map_of_mem hd
    simp [hm, hid]

theorem Refines.entry {t : List DevList} {m : DeviceMap} (h : Refines t m) {dev : DevList}
    (hd : dev ∈ t) : ∃ e, m dev.info.deviceID = some e ∧ EntryOf dev e := by
  rcases h.lookup_cases dev.info.deviceID with ⟨hf, -⟩ | ⟨dev', e, hf, hm, he⟩
  · simp [find?_hasId_mem h.distinct hd] at hf
  · rw [find?_hasId_mem h.distinct hd] at hf
    exact ⟨e, hm, Option.some.inj hf ▸ he⟩

theorem Refines.any_iff {t : List DevList} {m : DeviceMap} (h : Refines t m) (id : ℕ) :
    t.any (hasId id) = (m id).isSome := by
  rw [Bool.eq_iff_iff, h.mapped_iff]
  simp [ids, hasId]

theorem Refines.length_lt {t : List DevList} {m : DeviceMap} {c : Call}
    (h : Refines t (mapNext m c)) (hc : FitsCounter m c) : t.length < 2 ^ 32 := by
  obtain ⟨registered, hsub, hcard⟩ := hc
  have hle : (ids t).toFinset ⊆ registered := by
    intro id hid
    exact hsub id ((h.mapped_iff id).mpr (List.mem_toFinset.mp hid))
  have hlen := Finset.card_le_card hle
  rw [List.toFinset_card_of_nodup h.distinct, ids, List.length_map] at hlen
  omega

theorem find?_of_any {t : List DevList} {id : ℕ} (h : t.any (hasId id) = true) :
    ∃ dev, t.find? (hasId id) = some dev := by
  rw [← Option.isSome_iff_exists, List.find?_isSome]
  exact List.any_eq_true.mp h

theorem find?_updateFirst (f : DevList → DevList) (id id' : ℕ) (t : List DevList)
    (hf : ∀ dev, dev.info.deviceID = id → (f dev).info.deviceID = id) :
    (updateFirst (hasId id) f t).find? (hasId id') =
      if id' = id then (t.find? (hasId id)).map f else t.find? (hasId id') := by
  induction t with
  | nil => simp
  | cons v t ih =>
    rw [HeapChain.updateFirst_cons]
    by_cases hv : hasId id v
    · have hid : v.info.deviceID = id := by simpa [hasId] using hv
      by_cases he : id' = id
      · subst he
        have h₁ : hasId id' (f v) = true := by simp [hasId, hf v hid]
        simp [hv, h₁]
      · have h₁ : hasId id' (f v) = false := by simp [hasId, hf v hid, Ne.symm he]
        have h₂ : hasId id' v = false := by simp [hasId, hid, Ne.symm he]
        simp [hv, he, h₁, h₂]
    · by_cases he : id' = id
      · subst he
        simpa [hv] using ih
      · by_cases hv' : hasId id' v
        · simp [hv, hv', he]
        · simpa [hv, hv', he] using ih

theorem Refines.update {t : List DevList} {m : DeviceMap} (h : Refines t m) {id : ℕ}
    {f : DevList → DevList} {g : Entry → Entry}
    (hf : ∀ dev, dev.info.deviceID = id → (f dev).info.deviceID = id)
    (hg : ∀ dev e, EntryOf dev e → EntryOf (f dev) (g e)) :
    Refines (updateFirst (hasId id) f t) (Function.update m id ((m id).map g)) := by
  constructor
  · have hids : ids (updateFirst (hasId id) f t) = ids t := by
      refine HeapChain.updateFirst_map _ _ (fun dev hd => ?_) t
      have hid : dev.info.deviceID = id := by simpa [hasId] using hd
      rw [hf dev hid, hid]
    rw [hids]
    exact h.distinct
  · intro id'
    rw [find?_updateFirst f id id' t hf]
    by_cases he : id' = id
    · subst he
      rcases h.lookup_cases id' with ⟨hn, hm⟩ | ⟨dev, e, hn, hm, hr⟩
      · simp [hn, hm]
      · simpa [hn, hm] using hg _ _ hr
    · simpa [he] using h.lookup id'

theorem any_hasId (t : List DevList) (id : ℕ) : t.any (hasId id) = true ↔ id ∈ ids t := by
  simp [ids, hasId]

theorem ids_tableAdd (chunk : Chunk) (info : DeviceInfo) (arg : ℕ) (t : List DevList) :
    ids (tableAdd chunk info arg t) =
      if info.deviceID ∈ ids t then ids t else info.deviceID :: ids t := by
  rw [tableAdd]
  by_cases hknown : t.any (hasId info.deviceID) = true
  · rw [if_pos hknown, if_pos ((any_hasId _ _).mp hknown)]
    refine HeapChain.updateFirst_map _ _ (fun dev hdev => ?_) t
    have hid : dev.info.deviceID = info.deviceID := by simpa [hasId] using hdev
    exact hid.symm
  · rw [if_neg hknown, if_neg fun hm => hknown ((any_hasId _ _).mpr hm)]
    rfl

theorem find?_tableAdd_known {info : DeviceInfo} {t : List DevList} {dev : DevList}
    (hdev : t.find? (hasId info.deviceID) = some dev) (chunk : Chunk) (arg : ℕ) :
    (tableAdd chunk info arg t).find? (hasId info.deviceID) =
      some (reannounce info arg dev) := by
  have hknown : t.any (hasId info.deviceID) = true := by
    rw [List.any_eq_true]
    exact ⟨dev, List.mem_of_find?_eq_some hdev, List.find?_some hdev⟩
  rw [tableAdd, if_pos hknown, find?_updateFirst (reannounce info arg) _ _ _ fun _ _ => rfl,
    if_pos rfl, hdev, Option.map_some]

theorem find?_tableAdd_self (chunk : Chunk) (info : DeviceInfo) (arg : ℕ) (t : List DevList) :
    ∃ dev, (tableAdd chunk info arg t).find? (hasId info.deviceID) = some dev ∧
      dev.info = info ∧ dev.internalId = arg := by
  by_cases hknown : t.any (hasId info.deviceID) = true
  · obtain ⟨dev, hdev⟩ := find?_of_any hknown
    exact ⟨_, find?_tableAdd_known hdev chunk arg, rfl, rfl⟩
  · rw [tableAdd, if_neg hknown]
    exact ⟨_, List.find?_cons_of_pos (by simp [hasId]), rfl, rfl⟩

theorem find?_tableAdd_of_ne {info : DeviceInfo} {id : ℕ} (hne : id ≠ info.deviceID)
    (chunk : Chunk) (arg : ℕ) (t : List DevList) :
    (tableAdd chunk info arg t).find? (hasId id) = t.find? (hasId id) := by
  rw [tableAdd]
  split
  · rw [find?_updateFirst (reannounce info arg) _ _ _ fun _ _ => rfl, if_neg hne]
  · exact List.find?_cons_of_neg (by simpa [hasId] using Ne.symm hne)

theorem addDevice_refines {t : List DevList} {m : DeviceMap} (h : Refines t m) (chunk : Chunk)
    (msg : Idl.DeviceInfoMsg) (arg : ℕ) :
    Refines (tableAdd chunk (copyInfo msg) arg t) (mapNext m (.addDevice chunk msg arg)) := by
  have hany := h.any_iff msg.deviceID
  cases hm : m msg.deviceID with
  | some e =>
    have hadd : tableAdd chunk (copyInfo msg) arg t =
        updateFirst (hasId msg.deviceID) (reannounce (copyInfo msg) arg) t := by
      simp [tableAdd, copyInfo, hany, hm]
    have hup : Refines (updateFirst (hasId msg.deviceID) (reannounce (copyInfo msg) arg) t)
        (Function.update m msg.deviceID
          ((m msg.deviceID).map fun e => ⟨copyInfo msg, arg, e.status⟩)) :=
      h.update (fun _ _ => rfl) fun dev e he => ⟨rfl, rfl, he.status⟩
    rw [hadd]
    simpa [mapNext, hm] using hup
  | none =>
    have hadd : tableAdd chunk (copyInfo msg) arg t =
        ⟨copyInfo msg, chunk.agentTransferStatus, chunk.transferResult, arg⟩ :: t := by
      simp [tableAdd, copyInfo, hany, hm]
    have hfresh : msg.deviceID ∉ ids t := by
      rw [← h.mapped_iff, hm]
      simp
    rw [hadd]
    refine ⟨List.nodup_cons.mpr ⟨hfresh, h.distinct⟩, fun id => ?_⟩
    by_cases he : id = msg.deviceID
    · subst he
      simp only [mapNext, Function.update_self, hm]
      rw [List.find?_cons_of_pos (by simp [hasId, copyInfo])]
      exact .some ⟨rfl, rfl, by simp⟩
    · simp only [mapNext, Function.update_of_ne he]
      rw [List.find?_cons_of_neg (by simpa [hasId, copyInfo] using Ne.symm he)]
      exact h.lookup id

/-- Only one device can carry the lost handle, so removing the first match removes them all. -/
theorem find?_tableDel {t : List DevList} {internalId owner : ℕ} (hd : (ids t).Nodup)
    (ho : ∀ dev ∈ t, dev.internalId = internalId → dev.info.deviceID = owner) (id : ℕ) :
    (tableDel internalId t).find? (hasId id) =
      (t.find? (hasId id)).filter (·.internalId != internalId) := by
  induction t with
  | nil => rfl
  | cons v t ih =>
    have hd' := hd
    simp only [ids, List.map_cons, List.nodup_cons, List.mem_map, not_exists, not_and] at hd'
    have hown : ∀ dev ∈ t, dev.internalId = internalId → dev.info.deviceID = owner :=
      fun dev hm => ho dev (List.mem_cons_of_mem _ hm)
    by_cases hv : v.internalId = internalId
    · have hvo := ho v List.mem_cons_self hv
      rw [tableDel, List.eraseP_cons_of_pos (by simpa [hasInternalId] using hv)]
      by_cases hid : v.info.deviceID = id
      · rw [List.find?_cons_of_pos (by simpa [hasId] using hid)]
        have hnone : t.find? (hasId id) = none := by
          rw [List.find?_eq_none]
          intro dev hm hdev
          have hdid : dev.info.deviceID = id := by simpa [hasId] using hdev
          exact hd'.1 dev hm (hdid.trans hid.symm)
        rw [hnone, Option.filter_some_neg (by simpa using hv)]
      · rw [List.find?_cons_of_neg (by simpa [hasId] using hid)]
        cases hf : t.find? (hasId id) with
        | none => rfl
        | some dev =>
          have hm := (find?_hasId_some hf).1
          have hne : dev.internalId ≠ internalId := fun he =>
            hd'.1 dev hm ((hown dev hm he).trans hvo.symm)
          rw [Option.filter_some_pos (by simpa using hne)]
    · rw [tableDel, List.eraseP_cons_of_neg (by simpa [hasInternalId] using hv)]
      by_cases hid : v.info.deviceID = id
      · rw [List.find?_cons_of_pos (by simpa [hasId] using hid),
          List.find?_cons_of_pos (by simpa [hasId] using hid),
          Option.filter_some_pos (by simpa using hv)]
      · rw [List.find?_cons_of_neg (by simpa [hasId] using hid),
          List.find?_cons_of_neg (by simpa [hasId] using hid)]
        exact ih hd'.2 hown

theorem delDevice_refines {t : List DevList} {m : DeviceMap} (h : Refines t m)
    {owner : ℕ → ℕ} (ho : HandlesOf owner m) (internalId : ℕ) :
    Refines (tableDel internalId t) (mapNext m (.delDevice internalId)) := by
  have hown : ∀ dev ∈ t, dev.internalId = internalId → dev.info.deviceID = owner internalId := by
    intro dev hd hi
    obtain ⟨e, hm, he⟩ := h.entry hd
    rw [← ho _ e hm, ← he.handle, hi]
  constructor
  · exact h.distinct.sublist (List.eraseP_sublist.map _)
  · intro id
    rw [find?_tableDel h.distinct hown id]
    simp only [mapNext]
    rcases h.lookup_cases id with ⟨hf, hm⟩ | ⟨dev, e, hf, hm, he⟩
    · simp [hf, hm]
    · simp only [hf, hm, Option.filter_some, he.handle]
      split
      · exact .some he
      · exact .none

theorem getStatus_meets {t : List DevList} {m : DeviceMap} (h : Refines t m) (id : ℕ) :
    AnswerMeets m (.getStatusById id)
      (.status (tableGetStatus t.length id t).1 (tableGetStatus t.length id t).2) := by
  simp only [AnswerMeets, tableGetStatus, List.take_length]
  rcases h.lookup_cases id with ⟨hf, hm⟩ | ⟨dev, e, hf, hm, he⟩
  · simp [hf, hm]
  · simpa [hf, hm] using he.status

theorem createList_meets {t : List DevList} {m : DeviceMap} (h : Refines t m) :
    AnswerMeets m .createList (.list (t.map DevList.info)) := by
  constructor
  · have hids : (t.map DevList.info).map DeviceInfo.deviceID = ids t := by simp [ids]
    rw [hids]
    exact h.distinct
  · intro info
    constructor
    · intro hm
      obtain ⟨dev, hd, rfl⟩ := List.mem_map.mp hm
      obtain ⟨e, he, hr⟩ := h.entry hd
      exact ⟨e, he, hr.fields.symm⟩
    · rintro ⟨e, he, rfl⟩
      rcases h.lookup_cases e.fields.deviceID with ⟨-, hm⟩ | ⟨dev, e', hf, hm, hr⟩
      · simp [hm] at he
      · obtain rfl : e' = e := Option.some.inj (hm.symm.trans he)
        exact List.mem_map.mpr ⟨dev, (find?_hasId_some hf).1, hr.fields⟩

theorem handlesOf_next {owner : ℕ → ℕ} {m : DeviceMap} (h : HandlesOf owner m) {c : Call}
    (hc : Announces owner c) : HandlesOf owner (mapNext m c) := by
  intro id e he
  cases c with
  | addDevice chunk msg arg =>
    by_cases hi : id = msg.deviceID
    · subst hi
      simp only [mapNext, Function.update_self, Option.some.injEq] at he
      subst he
      exact hc
    · simp only [mapNext, Function.update_of_ne hi] at he
      exact h id e he
  | delDevice internalId =>
    simp only [mapNext, Option.filter_eq_some_iff] at he
    exact h id e he.1
  | setStatusById i st res =>
    by_cases hi : id = i
    · subst hi
      simp only [mapNext, Function.update_self, Option.map_eq_some_iff] at he
      obtain ⟨e', he', rfl⟩ := he
      exact h id e' he'
    · simp only [mapNext, Function.update_of_ne hi] at he
      exact h id e he
  | getStatusById i => exact h id e he
  | createList => exact h id e he
  | reinit => simp [mapNext, noDevices] at he

/-- Between calls the heap, the table and the map agree, and the counter is exact. -/
structure Represents (owner : ℕ → ℕ) (s : Registry) (m : DeviceMap) : Prop where
  handles : HandlesOf owner m
  table : ∃ t, HoldsTable s t ∧ Refines t m ∧ t.length < 2 ^ 32

theorem represents_init (owner : ℕ → ℕ) : Represents owner devinfoServerInit noDevices :=
  ⟨fun _ _ h => by simp [noDevices] at h, [], holdsTable_init, refines_init, by simp⟩

theorem call_represents {owner : ℕ → ℕ} {s : Registry} {m : DeviceMap} {c : Call}
    (h : Represents owner s m) (hc : Announces owner c) (hfit : FitsCounter m c) :
    ∃ s' a, call s c = some (s', a) ∧ AnswerMeets m c a ∧ Represents owner s' (mapNext m c) := by
  have hh := handlesOf_next h.handles hc
  obtain ⟨t, ht, hr, hlen⟩ := h.table
  cases c with
  | addDevice chunk msg arg =>
    obtain ⟨s', hs', ht'⟩ := addDevice_table ht chunk msg arg
    have hr' := addDevice_refines hr chunk msg arg
    exact ⟨s', .void, by simp [call, hs'], trivial, hh, _, ht', hr', hr'.length_lt hfit⟩
  | delDevice internalId =>
    obtain ⟨s', hs', ht'⟩ := delDevice_table ht internalId
    have hr' := delDevice_refines hr h.handles internalId
    exact ⟨s', .void, by simp [call, hs'], trivial, hh, _, ht', hr', hr'.length_lt hfit⟩
  | setStatusById id st res =>
    obtain ⟨s', hs', ht', -⟩ := setStatusById_table ht id st res
    rw [ht.count hlen, tableSetStatus_all] at ht'
    have hr' : Refines (updateFirst (hasId id) (withStatus st res) t)
        (mapNext m (.setStatusById id st res)) :=
      hr.update (fun _ hd => hd) fun dev e he => ⟨he.fields, he.handle, by simp [withStatus]⟩
    refine ⟨s', .code _, by simp only [call, hs']; rfl, ?_, hh, _, ht', hr',
      hr'.length_lt hfit⟩
    simp only [AnswerMeets, ht.count hlen, List.take_length, hr.any_iff]
  | getStatusById id =>
    exact ⟨s, _, by simp only [call, getStatusById_table ht, ht.count hlen]; rfl,
      getStatus_meets hr id, hh, t, ht, hr, hlen⟩
  | createList =>
    exact ⟨s, _, by simp only [call, createList_table ht hlen]; rfl, createList_meets hr,
      hh, t, ht, hr, hlen⟩
  | reinit =>
    exact ⟨devinfoServerInit, .void, by simp [call, deinit_table ht], trivial, hh, [],
      holdsTable_init, refines_init, by simp⟩

/-- While fewer than 2^32 devices are registered, the linked list refines the device map over
every run in which a publication handle announces one device only: no call faults, the counter
is the length of the list, the IDs are distinct, and each answer is the one the map gives. -/
theorem registry_refines_device_map {calls : List Call} (hh : OneDevicePerHandle calls)
    (hfit : RunsWithin mapNext FitsCounter noDevices calls) :
    (∃ s t, runEvents callState devinfoServerInit calls = some s ∧ Owned s.heap s.gDevHead t ∧
      s.gDevNum.toNat = t.length ∧ (ids t).Nodup ∧ Refines t (calls.foldl mapNext noDevices)) ∧
    ∀ before c after, calls = before ++ c :: after →
      ∃ s s' a, runEvents callState devinfoServerInit before = some s ∧
        call s c = some (s', a) ∧ AnswerMeets (before.foldl mapNext noDevices) c a := by
  classical
  -- the device a handle announces, read off the run itself
  let owner : ℕ → ℕ := fun arg =>
    if h : ∃ id chunk msg, .addDevice chunk msg arg ∈ calls ∧ msg.deviceID = id
    then h.choose else 0
  have hown : ∀ c ∈ calls, Announces owner c := by
    intro c hc
    cases c with
    | addDevice chunk msg arg =>
      have hex : ∃ id chunk msg, .addDevice chunk msg arg ∈ calls ∧ msg.deviceID = id :=
        ⟨_, chunk, msg, hc, rfl⟩
      obtain ⟨chunk', msg', hc', he⟩ := hex.choose_spec
      simp only [Announces, owner, dif_pos hex]
      rw [← he]
      exact hh _ _ _ _ _ hc' hc
    | _ => trivial
  have hstep : ∀ s m c, Represents owner s m → Announces owner c ∧ FitsCounter m c →
      ∃ s', callState s c = some s' ∧ Represents owner s' (mapNext m c) := by
    intro s m c hr hc
    obtain ⟨s', a, hs', -, hr'⟩ := call_represents hr hc.1 hc.2
    exact ⟨s', by simp [callState, hs'], hr'⟩
  have hwithin : ∀ {cs : List Call} {m : DeviceMap}, (∀ c ∈ cs, Announces owner c) →
      RunsWithin mapNext FitsCounter m cs →
      RunsWithin mapNext (fun m c => Announces owner c ∧ FitsCounter m c) m cs := by
    intro cs
    induction cs with
    | nil => intro m _ _; trivial
    | cons c cs ih =>
      intro m ha hf
      exact ⟨⟨ha c (by simp), hf.1⟩, ih (fun c hc => ha c (by simp [hc])) hf.2⟩
  have hall := hwithin hown hfit
  refine ⟨?_, ?_⟩
  · obtain ⟨s, hs, hr⟩ := runEvents_refines hstep (represents_init owner) hall
    obtain ⟨t, ht, hrt, hlen⟩ := hr.table
    exact ⟨s, t, hs, ht.owned, ht.count hlen, hrt.distinct, hrt⟩
  · intro before c after hsplit
    rw [hsplit, RunsWithin.append] at hall
    obtain ⟨s, hs, hr⟩ := runEvents_refines hstep (represents_init owner) hall.1
    obtain ⟨s', a, hs', ha, -⟩ := call_represents hr hall.2.1.1 hall.2.1.2
    exact ⟨s, s', a, hs, hs', ha⟩

def announce (id : ℕ) : Call :=
  .addDevice ⟨HeapChain.Malloc.bump, .done, emptyResult⟩ ⟨id, [], [], [], [], [], []⟩ id

/-- Device 5 is announced, marked as running, announced again by a new incarnation, and the
loss of the old incarnation's handle arrives late. -/
theorem registry_refines_device_map_reincarnation :
    let calls : List Call :=
      [announce 5, .setStatusById 5 .running emptyResult,
        .addDevice ⟨HeapChain.Malloc.bump, .done, emptyResult⟩ ⟨5, [], [], [], [], [], []⟩ 9,
        .delDevice 5, .getStatusById 5]
    ∃ s t, runEvents callState devinfoServerInit calls = some s ∧ Owned s.heap s.gDevHead t ∧
      s.gDevNum.toNat = t.length ∧ (ids t).Nodup ∧ Refines t (calls.foldl mapNext noDevices) := by
  intro calls
  refine (@registry_refines_device_map calls ?_ ?_).1
  · intro chunk msg arg chunk' msg' hm hm'
    simp only [calls, announce, List.mem_cons, Call.addDevice.injEq, reduceCtorEq, false_or,
      List.not_mem_nil, or_false] at hm hm'
    rcases hm with ⟨-, rfl, -⟩ | ⟨-, rfl, -⟩ <;> rcases hm' with ⟨-, rfl, -⟩ | ⟨-, rfl, -⟩ <;> rfl
  · have hfit : ∀ m c, (∀ id, (mapNext m c id).isSome → id = 5) → FitsCounter m c :=
      fun m c h => ⟨{5}, fun id hid => by simpa using h id hid, by simp⟩
    refine ⟨hfit _ _ ?_, hfit _ _ ?_, hfit _ _ ?_, hfit _ _ ?_, hfit _ _ ?_, trivial⟩ <;>
      · intro id
        by_cases hid : id = 5 <;> simp [hid, announce, mapNext, noDevices, Function.update_apply]

theorem announce_many (n : ℕ) : ∃ s t,
    runEvents callState devinfoServerInit ((List.range n).map announce) = some s ∧
      HoldsTable s t ∧ t.length = n ∧ ∀ dev ∈ t, dev.info.deviceID < n := by
  induction n with
  | zero => exact ⟨_, [], rfl, holdsTable_init, rfl, by simp⟩
  | succ n ih =>
    obtain ⟨s, t, hs, ht, hlen, hids⟩ := ih
    obtain ⟨s', hs', ht'⟩ := addDevice_table ht ⟨HeapChain.Malloc.bump, .done, emptyResult⟩
      ⟨n, [], [], [], [], [], []⟩ n
    have hnew : t.any (hasId n) = false := by
      rw [List.any_eq_false]
      intro dev hd he
      have hid : dev.info.deviceID = n := by simpa [hasId] using he
      have hlt := hids dev hd
      omega
    simp only [tableAdd, copyInfo, hnew, Bool.false_eq_true, if_false] at ht'
    refine ⟨s', _, ?_, ht', by simp [hlen], ?_⟩
    · rw [List.range_succ, List.map_append, runEvents_append, hs]
      simp [runEvents, announce, callState, call, hs']
    · intro dev hd
      rcases List.mem_cons.mp hd with rfl | hd
      · simp
      · have hlt := hids dev hd
        omega

/-- With 2^32 devices, each announced once by its own handle, the counter is back at zero. -/
theorem counter_wraps : ∃ s t,
    OneDevicePerHandle ((List.range (2 ^ 32)).map announce) ∧
    runEvents callState devinfoServerInit ((List.range (2 ^ 32)).map announce) = some s ∧
    Owned s.heap s.gDevHead t ∧ s.gDevNum.toNat ≠ t.length := by
  obtain ⟨s, t, hs, ht, hlen, -⟩ := announce_many (2 ^ 32)
  refine ⟨s, t, ?_, hs, ht.owned, ?_⟩
  · intro chunk msg arg chunk' msg' hm hm'
    obtain ⟨i, -, hi⟩ := List.mem_map.mp hm
    obtain ⟨j, -, hj⟩ := List.mem_map.mp hm'
    simp only [announce, Call.addDevice.injEq] at hi hj
    obtain ⟨-, rfl, rfl⟩ := hi
    obtain ⟨-, rfl, h⟩ := hj
    exact h.symm
  · rw [ht.counted, hlen]
    decide

end DeviceRegistry
