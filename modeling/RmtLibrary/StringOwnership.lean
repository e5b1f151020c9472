import RmtLibrary.DeviceStrings
import RmtLibrary.TwoRuns

/-! # Who owns the strings of the registry

Every string that is allocated belongs to a listed device or to an announcement that a later one
of the same device has replaced. The former are freed with their device, the latter never. Seen
through its pointers the registry is the one that holds texts. -/
namespace StringOwnership

open BlockHeap
open CString (Text)
open DeviceRegistry (tableAdd tableDel reannounce)
open DeviceStrings
open DevinfoServer (DeviceInfo DevList copyInfo)
open GuardedExecution
open HeapChain (Address Heap Link Malloc Chain Owned load updateFirst)
open Idl (DeviceInfoMsg)

def owners (infos : List InfoPtrs) : List Address := infos.flatMap InfoPtrs.blocks

theorem owners_cons (info : InfoPtrs) (infos : List InfoPtrs) :
    owners (info :: infos) = info.blocks ++ owners infos := rfl

theorem mem_owners {infos : List InfoPtrs} {a : Address} :
    a ∈ owners infos ↔ ∃ info ∈ infos, a ∈ info.blocks := List.mem_flatMap

theorem length_owners (infos : List InfoPtrs) : (owners infos).length = 6 * infos.length := by
  induction infos with
  | nil => rfl
  | cons info infos ih =>
    rw [owners_cons, List.length_append, ih, List.length_cons]
    simp only [InfoPtrs.blocks, List.length_cons, List.length_nil]
    omega

theorem owners_perm {infos infos' : List InfoPtrs} (h : infos.Perm infos') :
    (owners infos).Perm (owners infos') := h.flatMap_right _

def textsOf (msg : DeviceInfoMsg) : List Text :=
  [msg.host, msg.ip, msg.mac, msg.model, msg.rmtVersion, msg.devinfo]

theorem dupInfo_blocks (strdup : Malloc) (msg : DeviceInfoMsg) (strings : Blocks Text) :
    (dupInfo strdup msg strings).1.blocks = (allocAll strdup (textsOf msg) strings).1 := rfl

theorem dupInfo_strings (strdup : Malloc) (msg : DeviceInfoMsg) (strings : Blocks Text) :
    (dupInfo strdup msg strings).2 = (allocAll strdup (textsOf msg) strings).2 := rfl

theorem freeInfo_eq (info : InfoPtrs) (strings : Blocks Text) :
    freeInfo info strings = releaseAll info.blocks strings := by
  simp [freeInfo, InfoPtrs.blocks, releaseAll]

theorem readInfo_congr {strings strings' : Blocks Text} {info : InfoPtrs}
    (h : ∀ a ∈ info.blocks, read a strings' = read a strings) :
    readInfo strings' info = readInfo strings info := by
  simp only [InfoPtrs.blocks, List.forall_mem_cons] at h
  obtain ⟨hhost, hip, hmac, hmodel, hversion, hdevinfo, -⟩ := h
  simp only [readInfo, hhost, hip, hmac, hmodel, hversion, hdevinfo]

theorem dupInfo_spec (strdup : Malloc) (msg : DeviceInfoMsg) {strings strings' : Blocks Text}
    {info : InfoPtrs} (h : dupInfo strdup msg strings = (info, strings')) :
    info.deviceID = msg.deviceID ∧ readInfo strings' info = some (copyInfo msg) ∧
      (∀ a ∈ strings, read a strings' = read a strings) ∧
      ∀ {owned}, Owns strings owned → Owns strings' (info.blocks ++ owned) := by
  have hblocks := dupInfo_blocks strdup msg strings
  have hstrings := dupInfo_strings strdup msg strings
  have hid : (dupInfo strdup msg strings).1.deviceID = msg.deviceID := rfl
  rw [h] at hblocks hstrings hid
  simp only at hblocks hstrings hid
  have hread := read_allocAll strdup (textsOf msg) strings
  rw [← hblocks, ← hstrings] at hread
  refine ⟨hid, ?_, ?_, ?_⟩
  · simp only [InfoPtrs.blocks, textsOf, List.map_cons, List.map_nil, List.cons.injEq] at hread
    obtain ⟨hhost, hip, hmac, hmodel, hversion, hdevinfo, -⟩ := hread
    simp only [readInfo, hhost, hip, hmac, hmodel, hversion, hdevinfo, hid]
    rfl
  · intro a ha
    rw [hstrings]
    exact read_allocAll_of_mem _ _ ha
  · intro owned howns
    rw [hblocks, hstrings]
    exact howns.allocAll strdup (textsOf msg)

theorem readInfo_deviceID {strings : Blocks Text} {info : InfoPtrs} {texts : DeviceInfo}
    (h : readInfo strings info = some texts) : texts.deviceID = info.deviceID := by
  simp only [readInfo, Option.bind_eq_bind, Option.bind_eq_some_iff] at h
  obtain ⟨model, -, host, -, ip, -, mac, -, version, -, devinfo, -, h⟩ := h
  rw [← Option.some.inj h]

theorem freeInfo_owned {strings : Blocks Text} {info : InfoPtrs} {infos : List InfoPtrs}
    (h : Owns strings (owners (info :: infos))) :
    ∃ strings', freeInfo info strings = some strings' ∧ Owns strings' (owners infos) ∧
      ∀ a ∈ strings', read a strings' = read a strings := by
  obtain ⟨strings', hfree, howns, hsame⟩ := h.releaseAll
  refine ⟨strings', (freeInfo_eq info strings).trans hfree, howns, ?_⟩
  intro a ha
  apply hsame a
  intro hmem
  exact List.disjoint_of_nodup_append h.nodup hmem ((howns.live a).mp ha)

/-- A node shows the device of the table: the texts behind its pointers are the device's. -/
structure Shows (strings : Blocks Text) (node : DevNode) (dev : DevList) : Prop where
  info : readInfo strings node.info = some dev.info
  internalId : node.internalId = dev.internalId

theorem Shows.hasId {strings : Blocks Text} {node : DevNode} {dev : DevList}
    (h : Shows strings node dev) (id : ℕ) :
    DeviceStrings.hasId id node = DevinfoServer.hasId id dev := by
  rw [DeviceStrings.hasId, DevinfoServer.hasId, readInfo_deviceID h.info]

theorem Shows.hasInternalId {strings : Blocks Text} {node : DevNode} {dev : DevList}
    (h : Shows strings node dev) (internalId : ℕ) :
    DeviceStrings.hasInternalId internalId node = DevinfoServer.hasInternalId internalId dev := by
  rw [DeviceStrings.hasInternalId, DevinfoServer.hasInternalId, h.internalId]

/-- The nodes are in the list, show the devices of the table, and own the strings together with
the announcements that were replaced. -/
structure Accounts (s : Registry) (nodes : List DevNode) (t : List DevList)
    (replaced : List InfoPtrs) : Prop where
  owned : Owned s.heap s.gDevHead nodes
  shows : List.Forall₂ (Shows s.strings) nodes t
  strings : Owns s.strings (owners (nodes.map DevNode.info ++ replaced))
  counted : s.gDevNum = BitVec.ofNat 32 t.length

variable {s s' : Registry} {nodes : List DevNode} {t : List DevList} {replaced : List InfoPtrs}

theorem accounts_init : Accounts (devinfoServerInit ∅) [] [] [] :=
  ⟨HeapChain.owned_empty, .nil, owns_empty, rfl⟩

theorem Accounts.mem_strings (h : Accounts s nodes t replaced) {info : InfoPtrs}
    (hinfo : info ∈ nodes.map DevNode.info ++ replaced) {a : Address} (ha : a ∈ info.blocks) :
    a ∈ s.strings := (h.strings.live a).mpr (mem_owners.mpr ⟨info, hinfo, ha⟩)

theorem shows_congr {strings strings' : Blocks Text}
    (h : List.Forall₂ (Shows strings) nodes t)
    (hsame : ∀ node ∈ nodes, ∀ a ∈ node.info.blocks, read a strings' = read a strings) :
    List.Forall₂ (Shows strings') nodes t := by
  induction h with
  | nil => exact .nil
  | @cons node dev nodes t hnode _ ih =>
    refine .cons ⟨?_, hnode.internalId⟩ (ih fun node' hnode' => hsame node' (.tail _ hnode'))
    rw [readInfo_congr (hsame node List.mem_cons_self), hnode.info]

def nodeAdd (info : InfoPtrs) (arg : ℕ) (nodes : List DevNode) : List DevNode :=
  if nodes.any (hasId info.deviceID) then
    updateFirst (hasId info.deviceID) (fun _ => ⟨info, arg⟩) nodes
  else ⟨info, arg⟩ :: nodes

def replacedBy (id : ℕ) (nodes : List DevNode) : List InfoPtrs :=
  ((nodes.find? (hasId id)).map DevNode.info).toList

/-- Nothing is lost: the new strings are added to those that were there. -/
theorem nodeAdd_perm (info : InfoPtrs) (arg : ℕ) (nodes : List DevNode) :
    ((nodeAdd info arg nodes).map DevNode.info ++ replacedBy info.deviceID nodes).Perm
      (info :: nodes.map DevNode.info) := by
  rw [nodeAdd, replacedBy]
  cases hf : nodes.find? (hasId info.deviceID) with
  | none =>
    have hnone : nodes.any (hasId info.deviceID) = false := by
      simpa [List.find?_eq_none] using hf
    simp [hnone]
  | some old =>
    obtain ⟨hold, pre, post, rfl, hpre⟩ := List.find?_eq_some_iff_append.mp hf
    have hany : (pre ++ old :: post).any (hasId info.deviceID) = true := by simp [hold]
    rw [if_pos hany, HeapChain.updateFirst_split _ _ (by simpa using hpre) hold]
    simp only [List.map_append, List.map_cons, Option.map_some, Option.toList_some,
      List.append_assoc, List.cons_append]
    refine List.perm_middle.trans (.cons _ (List.Perm.append_left _ ?_))
    exact List.perm_append_comm

theorem accounts_add (h : Accounts s nodes t replaced) (mallocs : Mallocs) (msg : DeviceInfoMsg)
    (arg : ℕ) {info : InfoPtrs} {strings : Blocks Text}
    (hdup : dupInfo mallocs.strdup msg s.strings = (info, strings)) :
    ∃ s', addDevice mallocs msg arg s = some s' ∧ s'.strings = strings ∧
      Accounts s' (nodeAdd info arg nodes) (tableAdd mallocs.node (copyInfo msg) arg t)
        (replacedBy msg.deviceID nodes ++ replaced) := by
  obtain ⟨hid, hread, hsame, howned⟩ := dupInfo_spec mallocs.strdup msg hdup
  have hshows : List.Forall₂ (Shows strings) nodes t :=
    shows_congr h.shows fun node hnode a ha => hsame a
      (h.mem_strings (List.mem_append_left _ (List.mem_map_of_mem hnode)) ha)
  have howns : Owns strings (owners ((nodeAdd info arg nodes).map DevNode.info ++
      (replacedBy msg.deviceID nodes ++ replaced))) := by
    have hperm := (nodeAdd_perm info arg nodes).append_right replaced
    rw [List.append_assoc, List.cons_append, hid] at hperm
    exact (howned h.strings).perm (owners_perm hperm.symm)
  have hany : nodes.any (hasId msg.deviceID) = t.any (DevinfoServer.hasId msg.deviceID) :=
    TwoRuns.forall₂_any (fun _ _ hnode => hnode.hasId msg.deviceID) h.shows
  rw [nodeAdd, hid] at howns ⊢
  cases hknown : t.any (DevinfoServer.hasId msg.deviceID) with
  | false =>
    rw [hknown] at hany
    have hadd : tableAdd mallocs.node (copyInfo msg) arg t = ⟨copyInfo msg,
        mallocs.node.agentTransferStatus, mallocs.node.transferResult, arg⟩ :: t := by
      simp [tableAdd, copyInfo, hknown]
    have hfind := h.owned.find_none (p := hasId msg.deviceID) (by simpa using hany)
    rw [if_neg (by simp [hany])] at howns ⊢
    rw [hadd]
    refine ⟨_, by simp only [addDevice, hfind, hdup]; rfl, rfl,
      h.owned.push (mallocs.node.fresh _) _, .cons ⟨hread, rfl⟩ hshows, howns, ?_⟩
    simp [h.counted, BitVec.ofNat_add]
  | true =>
    rw [hknown] at hany
    have hadd : tableAdd mallocs.node (copyInfo msg) arg t =
        updateFirst (DevinfoServer.hasId msg.deviceID) (reannounce (copyInfo msg) arg) t := by
      simp [tableAdd, copyInfo, hknown]
    obtain ⟨a, heap, hfind, hstore, howned⟩ := h.owned.find_store (p := hasId msg.deviceID)
      (by simpa using hany) fun _ => ⟨info, arg⟩
    rw [if_pos hany] at howns ⊢
    rw [hadd]
    refine ⟨{ s with strings, heap }, by simp [addDevice, hfind, hdup, hstore], rfl, howned, ?_,
      howns, ?_⟩
    · exact HeapChain.forall₂_updateFirst (fun _ _ hnode => hnode.hasId msg.deviceID)
        (fun _ _ _ => ⟨hread, rfl⟩) hshows
    · rw [HeapChain.updateFirst_length]
      exact h.counted

theorem unlink_eq (p : DevNode → Bool) (heap : Heap DevNode) (fuel : ℕ) (a : Address) :
    HeapChain.unlinkNext p heap fuel a =
      (unlink p heap fuel a).map (·.map fun r => r.2.erase r.1) := by
  induction fuel generalizing a with
  | zero => rfl
  | succ fuel ih =>
    rw [HeapChain.unlinkNext, unlink]
    cases load heap a with
    | none => rfl
    | some node =>
      simp only [Option.bind_eq_bind, Option.bind_some]
      cases node.next with
      | none => rfl
      | some b =>
        simp only
        cases load heap b with
        | none => rfl
        | some ahead =>
          simp only [Option.bind_some]
          split
          · rfl
          · exact ih b

theorem unlink_value {p : DevNode → Bool} {heap heap' : Heap DevNode} {fuel : ℕ} {a b : Address}
    {x : Address × DevNode} {xs : List (Address × DevNode)}
    (hc : Chain heap (some a) (x :: xs)) (hu : unlink p heap fuel a = some (some (b, heap'))) :
    ∃ node, load heap' b = some node ∧ (xs.map Prod.snd).find? p = some node.val := by
  induction fuel generalizing a x xs with
  | zero => cases hu
  | succ fuel ih =>
    have hnodup := hc.nodup
    obtain ⟨ha, next, hl, ht⟩ := hc
    obtain rfl : a = x.1 := Option.some.inj ha
    rw [unlink, hl] at hu
    simp only [Option.bind_eq_bind, Option.bind_some] at hu
    cases xs with
    | nil =>
      obtain rfl : next = none := ht
      cases hu
    | cons y ys =>
      have hnext := ht
      obtain ⟨rfl, next', hl', ht'⟩ := ht
      simp only [hl', Option.bind_some] at hu
      split at hu
      · next hy =>
        obtain ⟨rfl, rfl⟩ := Prod.mk.inj (Option.some.inj (Option.some.inj hu))
        have hne : y.1 ≠ x.1 := by
          rintro he
          simp [he] at hnodup
        exact ⟨_, (HeapChain.load_insert_of_ne heap _ hne).trans hl', by simp [hy]⟩
      · next hy =>
        obtain ⟨node, hnode, hfind⟩ := ih hnext hu
        exact ⟨node, hnode, by rw [List.map_cons, List.find?_cons_of_neg hy, hfind]⟩

theorem find?_perm {p : DevNode → Bool} {node : DevNode} (h : nodes.find? p = some node) :
    nodes.Perm (node :: nodes.eraseP p) := by
  obtain ⟨hp, pre, post, rfl, hpre⟩ := List.find?_eq_some_iff_append.mp h
  have hpre' : ∀ b ∈ pre, ¬ p b = true := fun b hb => by simpa using hpre b hb
  rw [List.eraseP_append_right _ hpre', List.eraseP_cons_of_pos hp]
  exact List.perm_middle

theorem free_listed (h : Accounts s nodes t replaced) {p : DevNode → Bool} {node : DevNode}
    (hfind : nodes.find? p = some node) : ∃ strings, freeInfo node.info s.strings = some strings ∧
      Owns strings (owners ((nodes.eraseP p).map DevNode.info ++ replaced)) ∧
      ∀ a ∈ strings, read a strings = read a s.strings := by
  apply freeInfo_owned
  refine h.strings.perm (owners_perm ?_)
  exact ((find?_perm hfind).map DevNode.info).append_right replaced

theorem shows_of_owns {strings : Blocks Text} {nodes' : List DevNode} {t' : List DevList}
    (h : List.Forall₂ (Shows s.strings) nodes' t')
    (howns : Owns strings (owners (nodes'.map DevNode.info ++ replaced)))
    (hsame : ∀ a ∈ strings, read a strings = read a s.strings) :
    List.Forall₂ (Shows strings) nodes' t' := by
  apply shows_congr h
  intro node hnode a ha
  apply hsame a
  exact (howns.live a).mpr (mem_owners.mpr ⟨node.info,
    List.mem_append_left _ (List.mem_map_of_mem hnode), ha⟩)

theorem accounts_del (h : Accounts s nodes t replaced) (internalId : ℕ) :
    ∃ s', delDevice internalId s = some s' ∧
      Accounts s' (nodes.eraseP (hasInternalId internalId)) (tableDel internalId t) replaced ∧
      ∀ a ∈ s'.strings, read a s'.strings = read a s.strings := by
  have hshows := TwoRuns.forall₂_eraseP (fun _ _ hnode => hnode.hasInternalId internalId) h.shows
  have hlength := h.shows.length_eq
  have hlength' := hshows.length_eq
  obtain ⟨strings, heap, head, num⟩ := s
  cases head with
  | none =>
    obtain rfl := h.owned.null_iff.mp rfl
    obtain rfl := List.length_eq_zero_iff.mp hlength.symm
    exact ⟨_, rfl, h, fun _ _ => rfl⟩
  | some a =>
    have howned := h.owned
    obtain ⟨next, node, rest, rfl, hl, hr⟩ := howned.head
    cases hd : hasInternalId internalId node with
    | true =>
      obtain ⟨strings', hfree, howns, hsame⟩ := free_listed h
        (p := hasInternalId internalId) (List.find?_cons_of_pos hd)
      rw [List.eraseP_cons_of_pos hd] at howns hshows hlength' ⊢
      refine ⟨⟨strings', heap.erase a, next, num - 1⟩, ?_, ⟨hr, shows_of_owns hshows howns hsame,
        howns, ?_⟩, hsame⟩
      · simp [delDevice, hl, hd, freeDevList, hfree]
      · rw [tableDel, ← hlength']
        have hnum := h.counted
        simp only at hnum ⊢
        rw [hnum, ← hlength]
        exact DeviceRegistry.counter_decrement rfl
    | false =>
      have herase : (node :: rest).eraseP (hasInternalId internalId) =
          node :: rest.eraseP (hasInternalId internalId) := by simp [hd]
      rcases howned.unlinkNext (hasInternalId internalId) with
        ⟨hnone, hu⟩ | ⟨⟨v, hv, hpv⟩, heap', hu, howned'⟩
      · rw [unlink_eq, Option.map_eq_some_iff] at hu
        obtain ⟨r, hu, hr⟩ := hu
        obtain rfl := Option.map_eq_none_iff.mp hr
        have hsame : (node :: rest).eraseP (hasInternalId internalId) = node :: rest := by
          rw [herase, List.eraseP_of_forall_not fun v hv => by simp [hnone v hv]]
        rw [hsame] at hshows hlength' ⊢
        refine ⟨⟨strings, heap, some a, num⟩, by simp [delDevice, hl, hd, hu],
          ⟨howned, hshows, h.strings, ?_⟩, fun _ _ => rfl⟩
        rw [tableDel, ← hlength', hlength]
        exact h.counted
      · rw [unlink_eq, Option.map_eq_some_iff] at hu
        obtain ⟨r, hu, hr⟩ := hu
        obtain ⟨⟨b, heap₁⟩, rfl, rfl⟩ := Option.map_eq_some_iff.mp hr
        obtain ⟨xs, hc, hvals, -⟩ := howned
        cases xs with
        | nil => simp at hvals
        | cons x xs =>
          obtain ⟨-, rfl⟩ := List.cons.inj hvals
          obtain ⟨freed, hload, hfind⟩ := unlink_value hc hu
          obtain ⟨strings', hfree, howns, hsame⟩ := free_listed h
            (p := hasInternalId internalId) (by rw [List.find?_cons_of_neg (by simp [hd]), hfind])
          rw [herase] at howns hshows hlength' ⊢
          refine ⟨⟨strings', heap₁.erase b, some a, num - 1⟩, ?_, ⟨howned',
            shows_of_owns hshows howns hsame, howns, ?_⟩, hsame⟩
          · simp [delDevice, hl, hd, hu, freeDevList, hload, hfree]
          · have hpos : 0 < (xs.map Prod.snd).length := List.length_pos_of_mem hv
            have hlen := List.length_eraseP_of_mem hv hpv
            have hnum := h.counted
            simp only at hnum ⊢
            rw [hnum, tableDel, ← hlength', ← hlength]
            exact DeviceRegistry.counter_decrement (by simp only [List.length_cons]; omega)

theorem accounts_deinit (h : Accounts s nodes t replaced) :
    ∃ s', devinfoServerDeinit nodes.length s = some s' ∧ Owns s'.strings (owners replaced) ∧
      ∀ a ∈ s'.strings, read a s'.strings = read a s.strings := by
  induction nodes generalizing s t with
  | nil =>
    have hnull := h.owned.null_iff.mpr rfl
    exact ⟨s, if_pos hnull, h.strings, fun _ _ => rfl⟩
  | cons node nodes ih =>
    obtain ⟨strings, heap, head, num⟩ := s
    cases head with
    | none => simpa using h.owned.null_iff.mp rfl
    | some a =>
      obtain ⟨next, node', rest, hcons, hl, hr⟩ := h.owned.head
      obtain ⟨rfl, rfl⟩ := List.cons.inj hcons
      have howners : Owns strings (owners (node.info :: (nodes.map DevNode.info ++ replaced))) :=
        h.strings
      obtain ⟨strings₁, hfree, howns, hsame⟩ := freeInfo_owned howners
      obtain ⟨hshows, hcounted⟩ := And.intro h.shows h.counted
      cases t with
      | nil => cases hshows
      | cons dev t =>
        have hrest : List.Forall₂ (Shows strings₁) nodes t :=
          shows_of_owns (s := ⟨strings, heap, some a, num⟩)
            (List.forall₂_cons.mp hshows).2 howns hsame
        have hnum : num - 1 = BitVec.ofNat 32 t.length := by
          simp only at hcounted
          rw [hcounted]
          exact DeviceRegistry.counter_decrement rfl
        obtain ⟨s', hloop, howns', hsame'⟩ :=
          ih (s := ⟨strings₁, heap.erase a, next, num - 1⟩) ⟨hr, hrest, howns, hnum⟩
        refine ⟨s', ?_, howns', ?_⟩
        · have hload : load heap a = some ⟨next, node⟩ := hl
          have hfreed : freeInfo node.info strings = some strings₁ := hfree
          simp only [List.length_cons, devinfoServerDeinit, hload, freeDevList, hfreed,
            Option.bind_eq_bind, Option.bind_some]
          exact hloop
        · intro b hb
          have hlive : b ∈ strings₁ := (howns.live b).mpr
            (mem_owners.mpr ((mem_owners.mp ((howns'.live b).mp hb)).imp
              fun info hinfo => ⟨List.mem_append_right _ hinfo.1, hinfo.2⟩))
          rw [hsame' b hb, hsame b hlive]

def tableStep (t : List DevList) : Event → List DevList
  | .add mallocs msg arg => tableAdd mallocs.node (copyInfo msg) arg t
  | .del internalId => tableDel internalId t
  | .reinit => []

def nodeStep (s : Registry) (nodes : List DevNode) : Event → List DevNode
  | .add mallocs msg arg => nodeAdd (dupInfo mallocs.strdup msg s.strings).1 arg nodes
  | .del internalId => nodes.eraseP (hasInternalId internalId)
  | .reinit => []

def replacedStep (nodes : List DevNode) : Event → List InfoPtrs
  | .add _ msg _ => replacedBy msg.deviceID nodes
  | _ => []

theorem accounts_step (h : Accounts s nodes t replaced) (e : Event) :
    ∃ s', step s e = some s' ∧
      Accounts s' (nodeStep s nodes e) (tableStep t e) (replacedStep nodes e ++ replaced) ∧
      ∀ a ∈ s.strings, a ∈ s'.strings → read a s'.strings = read a s.strings := by
  cases e with
  | add mallocs msg arg =>
    have hdup : dupInfo mallocs.strdup msg s.strings =
        ((dupInfo mallocs.strdup msg s.strings).1, (dupInfo mallocs.strdup msg s.strings).2) := rfl
    obtain ⟨s', hadd, hstrings, h'⟩ := accounts_add h mallocs msg arg hdup
    obtain ⟨-, -, hsame, -⟩ := dupInfo_spec mallocs.strdup msg hdup
    exact ⟨s', hadd, h', fun a ha _ => hstrings ▸ hsame a ha⟩
  | del internalId =>
    obtain ⟨s', hdel, h', hsame⟩ := accounts_del h internalId
    exact ⟨s', hdel, h', fun a _ ha => hsame a ha⟩
  | reinit =>
    obtain ⟨s', hdeinit, howns, hsame⟩ := accounts_deinit h
    refine ⟨devinfoServerInit s'.strings, ?_, ⟨HeapChain.owned_empty, .nil, howns, rfl⟩,
      fun a _ ha => hsame a ha⟩
    rw [step, h.owned.card, hdeinit]
    rfl

def reannounces (t : List DevList) : Event → Bool
  | .add _ msg _ => t.any (DevinfoServer.hasId msg.deviceID)
  | _ => false

def replacements : List DevList → List Event → ℕ
  | _, [] => 0
  | t, e :: es => (if reannounces t e then 1 else 0) + replacements (tableStep t e) es

theorem length_replacedStep (h : Accounts s nodes t replaced) (e : Event) :
    (replacedStep nodes e).length = if reannounces t e then 1 else 0 := by
  cases e with
  | add mallocs msg arg =>
    have hany := TwoRuns.forall₂_any (fun _ _ hnode => hnode.hasId msg.deviceID) h.shows
    rw [reannounces, ← hany, ← List.isSome_find?, replacedStep, replacedBy]
    cases nodes.find? (hasId msg.deviceID) <;> rfl
  | del internalId => rfl
  | reinit => rfl

/-- A run does not fault, and accounts for the strings with one more announcement for each that
replaced another. -/
theorem accounts_run (h : Accounts s nodes t replaced) (es : List Event) :
    ∃ s' nodes' replaced', runEvents step s es = some s' ∧
      Accounts s' nodes' (es.foldl tableStep t) replaced' ∧ replaced ⊆ replaced' ∧
      replaced'.length = replaced.length + replacements t es ∧
      ∀ a ∈ owners replaced, read a s'.strings = read a s.strings := by
  induction es generalizing s nodes t replaced with
  | nil => exact ⟨s, nodes, replaced, rfl, h, fun _ hm => hm, rfl, fun _ _ => rfl⟩
  | cons e es ih =>
    obtain ⟨s₁, hstep, h₁, hsame₁⟩ := accounts_step h e
    obtain ⟨s', nodes', replaced', hrun, h', hsub, hlength, hsame⟩ := ih h₁
    have hsub₁ : replaced ⊆ replacedStep nodes e ++ replaced := List.subset_append_right _ _
    refine ⟨s', nodes', replaced', ?_, h', List.Subset.trans hsub₁ hsub, ?_, ?_⟩
    · rw [runEvents, hstep, Option.bind_some, hrun]
    · rw [hlength, List.length_append, length_replacedStep h, replacements]
      omega
    · intro a ha
      obtain ⟨info, hinfo, ha⟩ := mem_owners.mp ha
      rw [hsame a (mem_owners.mpr ⟨info, hsub₁ hinfo, ha⟩)]
      exact hsame₁ a (h.mem_strings (List.mem_append_right _ hinfo) ha)
        (h₁.mem_strings (List.mem_append_right _ (hsub₁ hinfo)) ha)

/-- No run frees a string twice or one that is not allocated. Behind it there are six strings for
each listed device, and six for each announcement of a device that was listed already, which
nothing frees any more. -/
theorem strings_accounted (es : List Event) :
    ∃ s, runEvents step (devinfoServerInit ∅) es = some s ∧
      s.strings.keys.card = 6 * ((es.foldl tableStep []).length + replacements [] es) := by
  obtain ⟨s, nodes, replaced, hrun, h, -, hlength, -⟩ := accounts_run accounts_init es
  refine ⟨s, hrun, ?_⟩
  rw [h.strings.card, length_owners, List.length_append, List.length_map, h.shows.length_eq,
    hlength, List.length_nil, Nat.zero_add]

def registryCall : Event → DevinfoServer.Call
  | .add mallocs msg arg => .addDevice mallocs.node msg arg
  | .del internalId => .delDevice internalId
  | .reinit => .reinit

theorem holdsTable_step {r : DevinfoServer.Registry} (h : DeviceRegistry.HoldsTable r t)
    (e : Event) : ∃ r', DevinfoServer.callState r (registryCall e) = some r' ∧
      DeviceRegistry.HoldsTable r' (tableStep t e) := by
  cases e with
  | add mallocs msg arg =>
    obtain ⟨r', hadd, h'⟩ := DeviceRegistry.addDevice_table h mallocs.node msg arg
    exact ⟨r', by simp [DevinfoServer.callState, DevinfoServer.call, registryCall, hadd], h'⟩
  | del internalId =>
    obtain ⟨r', hdel, h'⟩ := DeviceRegistry.delDevice_table h internalId
    exact ⟨r', by simp [DevinfoServer.callState, DevinfoServer.call, registryCall, hdel], h'⟩
  | reinit =>
    exact ⟨DevinfoServer.devinfoServerInit,
      by simp [DevinfoServer.callState, DevinfoServer.call, registryCall,
        DeviceRegistry.deinit_table h], DeviceRegistry.holdsTable_init⟩

theorem holdsTable_run {r : DevinfoServer.Registry} (h : DeviceRegistry.HoldsTable r t)
    (es : List Event) : ∃ r', runEvents DevinfoServer.callState r (es.map registryCall) = some r' ∧
      DeviceRegistry.HoldsTable r' (es.foldl tableStep t) := by
  induction es generalizing r t with
  | nil => exact ⟨r, rfl, h⟩
  | cons e es ih =>
    obtain ⟨r₁, hstep, h₁⟩ := holdsTable_step h e
    obtain ⟨r', hrun, h'⟩ := ih h₁
    exact ⟨r', by rw [List.map_cons, runEvents, hstep, Option.bind_some, hrun], h'⟩

def readList (strings : Blocks Text) (list : List InfoPtrs) : Option (List DeviceInfo) :=
  list.mapM (readInfo strings)

theorem readList_shows {strings : Blocks Text} (h : List.Forall₂ (Shows strings) nodes t) :
    readList strings (nodes.map DevNode.info) = some (t.map DevList.info) := by
  induction h with
  | nil => rfl
  | cons hnode _ ih =>
    rw [readList] at ih ⊢
    simp [List.mapM_cons, hnode.info, ih]

theorem createList_ptrs (h : Accounts s nodes t replaced) :
    devinfoServerCreateList s = some ((nodes.take s.gDevNum.toNat).map DevNode.info) := by
  have hle : s.gDevNum.toNat ≤ nodes.length := by
    rw [h.counted, BitVec.toNat_ofNat, h.shows.length_eq]
    exact Nat.mod_le _ _
  simp [devinfoServerCreateList, h.owned.copyCounted_take hle]

/-- In lockstep with the registry that holds texts neither faults, and the lists both create at the
end are the same once the pointers are read. -/
theorem pointers_refine_texts (es : List Event) :
    ∃ s r list texts, runEvents step (devinfoServerInit ∅) es = some s ∧
      runEvents DevinfoServer.callState DevinfoServer.devinfoServerInit (es.map registryCall) =
        some r ∧ s.gDevNum = r.gDevNum ∧ devinfoServerCreateList s = some list ∧
      DevinfoServer.devinfoServerCreateList r = some texts ∧
      readList s.strings list = some texts := by
  obtain ⟨s, nodes, replaced, hrun, h, -, -, -⟩ := accounts_run accounts_init es
  obtain ⟨r, hrun', h'⟩ := holdsTable_run DeviceRegistry.holdsTable_init es
  have hnum : s.gDevNum = r.gDevNum := h.counted.trans h'.counted.symm
  have hshows : List.Forall₂ (Shows s.strings) (nodes.take s.gDevNum.toNat)
      ((es.foldl tableStep []).take s.gDevNum.toNat) := List.forall₂_take _ h.shows
  refine ⟨s, r, _, _, hrun, hrun', hnum, createList_ptrs h, ?_, readList_shows hshows⟩
  rw [hnum]
  simp [DevinfoServer.devinfoServerCreateList, h'.owned.copyCounted_take h'.count_le]

inductive Fate where
  | stays
  | replaced
  | freed
  deriving DecidableEq, Repr

def fate (id : ℕ) (t : List DevList) : Event → Fate
  | .add _ msg _ => if msg.deviceID = id then .replaced else .stays
  | .del internalId =>
    if (t.find? (DevinfoServer.hasInternalId internalId)).any (DevinfoServer.hasId id) then .freed
    else .stays
  | .reinit => .freed

/-- The first event that concerns the strings of the device frees them. -/
def freesEntry (id : ℕ) : List DevList → List Event → Bool
  | _, [] => false
  | t, e :: es =>
    match fate id t e with
    | .stays => freesEntry id (tableStep t e) es
    | .replaced => false
    | .freed => true

theorem nodup_step (h : (DeviceRegistry.ids t).Nodup) (e : Event) :
    (DeviceRegistry.ids (tableStep t e)).Nodup := by
  cases e with
  | add mallocs msg arg =>
    rw [tableStep, DeviceRegistry.ids_tableAdd]
    split
    · exact h
    · next hnew => exact List.nodup_cons.mpr ⟨hnew, h⟩
  | del internalId => exact h.sublist (List.eraseP_sublist.map _)
  | reinit => exact List.nodup_nil

theorem nodup_run (h : (DeviceRegistry.ids t).Nodup) (es : List Event) :
    (DeviceRegistry.ids (es.foldl tableStep t)).Nodup := by
  induction es generalizing t with
  | nil => exact h
  | cons e es ih => exact ih (nodup_step h e)

theorem Accounts.node_inj (h : Accounts s nodes t replaced) (hd : (DeviceRegistry.ids t).Nodup)
    {node node' : DevNode} (hnode : node ∈ nodes) (hnode' : node' ∈ nodes)
    (hid : node.info.deviceID = node'.info.deviceID) : node = node' := by
  have hids : nodes.map (fun node => node.info.deviceID) = DeviceRegistry.ids t := by
    rw [DeviceRegistry.ids, ← List.forall₂_eq_eq_eq, List.forall₂_map_left_iff,
      List.forall₂_map_right_iff]
    exact h.shows.imp fun _ _ hshow => (readInfo_deviceID hshow.info).symm
  exact List.inj_on_of_nodup_map (hids ▸ hd) hnode hnode' hid

theorem mem_nodeAdd {node : DevNode} (h : node ∈ nodes) {info : InfoPtrs} {arg : ℕ}
    (hne : info.deviceID ≠ node.info.deviceID) : node ∈ nodeAdd info arg nodes := by
  rw [nodeAdd]
  split
  · next hany =>
    obtain ⟨old, hold, pre, post, hsplit, hpre⟩ : ∃ old, hasId info.deviceID old = true ∧
        ∃ pre post, nodes = pre ++ old :: post ∧ ∀ a ∈ pre, (!hasId info.deviceID a) = true := by
      obtain ⟨old, hfind⟩ := Option.isSome_iff_exists.mp (List.isSome_find?.trans hany)
      exact ⟨old, List.find?_eq_some_iff_append.mp hfind⟩
    subst hsplit
    rw [HeapChain.updateFirst_split _ _ (by simpa using hpre) hold]
    rcases List.mem_append.mp h with hm | hm
    · exact List.mem_append_left _ hm
    · rcases List.mem_cons.mp hm with rfl | hm
      · exact absurd (beq_iff_eq.mp hold).symm hne
      · exact List.mem_append_right _ (List.mem_cons_of_mem _ hm)
  · exact List.mem_cons_of_mem _ h

theorem fate_step (h : Accounts s nodes t replaced) (hd : (DeviceRegistry.ids t).Nodup)
    {node : DevNode} (hnode : node ∈ nodes) {e : Event} (hs : step s e = some s')
    (h' : Accounts s' (nodeStep s nodes e) (tableStep t e) (replacedStep nodes e ++ replaced)) :
    match fate node.info.deviceID t e with
    | .stays => node ∈ nodeStep s nodes e
    | .replaced => node.info ∈ replacedStep nodes e
    | .freed => ∀ a ∈ node.info.blocks, a ∉ s'.strings := by
  cases e with
  | add mallocs msg arg =>
    by_cases hid : msg.deviceID = node.info.deviceID
    · simp only [fate, if_pos hid]
      have hsome : nodes.any (hasId msg.deviceID) = true :=
        List.any_eq_true.mpr ⟨node, hnode, beq_iff_eq.mpr hid.symm⟩
      obtain ⟨old, hfind⟩ := Option.isSome_iff_exists.mp (List.isSome_find?.trans hsome)
      have hold : old.info.deviceID = msg.deviceID := by simpa [hasId] using List.find?_some hfind
      obtain rfl := h.node_inj hd (List.mem_of_find?_eq_some hfind) hnode (hold.trans hid)
      simp [replacedStep, replacedBy, hfind]
    · simp only [fate, if_neg hid]
      exact mem_nodeAdd hnode hid
  | del internalId =>
    have hrel := TwoRuns.forall₂_find? (fun _ _ hnode => hnode.hasInternalId internalId) h.shows
    rw [fate]
    rcases TwoRuns.rel_cases hrel with ⟨hnone, hnone'⟩ | ⟨lost, dev, hfind, hfind', hshow⟩
    · simp only [hnone', Option.any_none, Bool.false_eq_true, if_false, nodeStep]
      rw [List.eraseP_of_forall_not (by simpa [List.find?_eq_none] using hnone)]
      exact hnode
    · simp only [hfind', Option.any_some]
      have hperm := find?_perm hfind
      rw [← hshow.hasId]
      by_cases hlost : hasId node.info.deviceID lost = true
      · rw [if_pos hlost]
        have hid : lost.info.deviceID = node.info.deviceID := by simpa [hasId] using hlost
        obtain rfl := h.node_inj hd (List.mem_of_find?_eq_some hfind) hnode hid
        intro a ha hlive
        have hnodup : (owners (lost.info :: ((nodes.eraseP (hasInternalId internalId)).map
            DevNode.info ++ replaced))).Nodup :=
          (owners_perm ((hperm.map DevNode.info).append_right replaced)).nodup_iff.mp
            h.strings.nodup
        exact List.disjoint_of_nodup_append hnodup ha ((h'.strings.live a).mp hlive)
      · rw [if_neg hlost]
        refine (List.mem_cons.mp (hperm.mem_iff.mp hnode)).resolve_left ?_
        rintro rfl
        exact hlost (by simp [hasId])
  | reinit =>
    intro a ha hlive
    have hnodup := h.strings.nodup
    rw [owners, List.flatMap_append] at hnodup
    exact List.disjoint_of_nodup_append hnodup
      (mem_owners.mpr ⟨node.info, List.mem_map_of_mem hnode, ha⟩) ((h'.strings.live a).mp hlive)

theorem shows_readable {strings : Blocks Text} (h : List.Forall₂ (Shows strings) nodes t)
    {node : DevNode} (hnode : node ∈ nodes) : ∃ texts, readInfo strings node.info = some texts := by
  induction h with
  | nil => cases hnode
  | cons hshow _ ih =>
    rcases List.mem_cons.mp hnode with rfl | hnode
    · exact ⟨_, hshow.info⟩
    · exact ih hnode

theorem read_step (h : Accounts s nodes t replaced) {node : DevNode} (hnode : node ∈ nodes)
    {nodes' : List DevNode} {t' : List DevList} {replaced' : List InfoPtrs}
    (h' : Accounts s' nodes' t' replaced')
    (hkept : node.info ∈ nodes'.map DevNode.info ++ replaced')
    (hsame : ∀ a ∈ s.strings, a ∈ s'.strings → read a s'.strings = read a s.strings) :
    readInfo s'.strings node.info = readInfo s.strings node.info := by
  apply readInfo_congr
  intro a ha
  exact hsame a (h.mem_strings (List.mem_append_left _ (List.mem_map_of_mem hnode)) ha)
    (h'.mem_strings hkept ha)

theorem entry_lifetime (h : Accounts s nodes t replaced) (hd : (DeviceRegistry.ids t).Nodup)
    {node : DevNode} (hnode : node ∈ nodes) (later : List Event) :
    ∃ s', runEvents step s later = some s' ∧
      (freesEntry node.info.deviceID t later = false →
        readInfo s'.strings node.info = readInfo s.strings node.info) ∧
      (freesEntry node.info.deviceID t later = true → ∃ k u,
        runEvents step s (later.take k) = some u ∧ ∀ a ∈ node.info.blocks, a ∉ u.strings) := by
  induction later generalizing s nodes t replaced with
  | nil => exact ⟨s, rfl, fun _ => rfl, fun hfreed => by cases hfreed⟩
  | cons e later ih =>
    obtain ⟨s₁, hstep, h₁, hsame⟩ := accounts_step h e
    have hfate := fate_step h hd hnode hstep h₁
    have hrun : ∀ es, runEvents step s (e :: es) = runEvents step s₁ es := by
      intro es
      rw [runEvents, hstep, Option.bind_some]
    simp only [hrun, freesEntry]
    cases hf : fate node.info.deviceID t e with
    | stays =>
      rw [hf] at hfate
      obtain ⟨s', hlater, hreads, hfrees⟩ := ih h₁ (nodup_step hd e) hfate
      refine ⟨s', hlater, ?_, ?_⟩
      · intro hstays
        rw [hreads hstays]
        exact read_step h hnode h₁ (List.mem_append_left _ (List.mem_map_of_mem hfate)) hsame
      · intro hfreed
        obtain ⟨k, u, hu, hdead⟩ := hfrees hfreed
        exact ⟨k + 1, u, by rw [List.take_succ_cons, hrun, hu], hdead⟩
    | replaced =>
      rw [hf] at hfate
      have hkept := List.mem_append_left replaced hfate
      obtain ⟨s', nodes', replaced', hlater, -, -, -, hreads⟩ := accounts_run h₁ later
      refine ⟨s', hlater, fun _ => ?_, fun hfreed => by cases hfreed⟩
      rw [readInfo_congr fun a ha => hreads a (mem_owners.mpr ⟨node.info, hkept, ha⟩)]
      exact read_step h hnode h₁ (List.mem_append_right _ hkept) hsame
    | freed =>
      rw [hf] at hfate
      obtain ⟨s', nodes', replaced', hlater, -, -, -, -⟩ := accounts_run h₁ later
      refine ⟨s', hlater, ?_, ?_⟩
      · intro hstays
        cases hstays
      · intro _
        exact ⟨1, s₁, by rw [List.take_succ_cons, List.take_zero, hrun]; rfl, hfate⟩

/-- The entries of a created list point to the strings of the registry. An entry reads the same
for ever if the first event behind the creation that concerns its device is another announcement
of it, or none is, and all its strings are freed if it is the loss of the device or a restart. -/
theorem created_entry_lifetime (es later : List Event) : ∃ s s' list,
    runEvents step (devinfoServerInit ∅) es = some s ∧ runEvents step s later = some s' ∧
      devinfoServerCreateList s = some list ∧ ∀ entry ∈ list,
        (readInfo s.strings entry).isSome ∧
        (freesEntry entry.deviceID (es.foldl tableStep []) later = false →
          readInfo s'.strings entry = readInfo s.strings entry) ∧
        (freesEntry entry.deviceID (es.foldl tableStep []) later = true → ∃ k u,
          runEvents step s (later.take k) = some u ∧ ∀ a ∈ entry.blocks, a ∉ u.strings) := by
  obtain ⟨s, nodes, replaced, hrun, h, -, -, -⟩ := accounts_run accounts_init es
  obtain ⟨s', -, -, hlater, -⟩ := accounts_run h later
  refine ⟨s, s', _, hrun, hlater, createList_ptrs h, ?_⟩
  intro entry hentry
  obtain ⟨node, hmem, rfl⟩ := List.mem_map.mp hentry
  have hnode := List.mem_of_mem_take hmem
  refine ⟨?_, ?_⟩
  · obtain ⟨texts, htexts⟩ := shows_readable h.shows hnode
    rw [htexts]
    rfl
  · obtain ⟨u, hu, hlife⟩ := entry_lifetime h (nodup_run (t := []) List.nodup_nil es) hnode later
    obtain rfl : u = s' := Option.some.inj (hu.symm.trans hlater)
    exact hlife

end StringOwnership
