import RmtLibrary.DefinedOutputs

/-! # What a created device list contains

The DeviceInfo reader holds announcements mixed with samples of writers that went away. A drain
ends at the first sample without valid data, and what lies behind it is not in the list. -/
namespace DeviceListing

open DdsTransport (Sample taken left valid)
open DefinedOutputs
open DevinfoServer
open GhostDevices (Announcement)
open GuardedExecution
open HeapChain (updateFirst Malloc)
open ServerCalls
open TwoRuns

def lastAnnounced (id : ℕ) (as : List Announcement) : Option DeviceInfo :=
  (as.reverse.find? fun a => a.msg.deviceID == id).map fun a => copyInfo a.msg

/-- The list has every device with a valid announcement, as its last one describes it. -/
def Complete (samples : List (Sample Announcement)) (dev : List DeviceInfo) : Prop :=
  ∀ id, ∀ info ∈ lastAnnounced id (valid samples), info ∈ dev

/-- What the devices `listed` know of a device behind some announcements. -/
def standing (listed : List DeviceInfo) (as : List Announcement) (id : ℕ) : Option DeviceInfo :=
  (lastAnnounced id as).or (listed.find? fun info => info.deviceID == id)

/-- The IDs in the order of the registry. A new device goes to the front. -/
def arrive (ids : List ℕ) (as : List Announcement) : List ℕ :=
  as.foldl (fun ids a => if a.msg.deviceID ∈ ids then ids else a.msg.deviceID :: ids) ids

/-- Nothing new lies behind the first sample without valid data, and the counter reaches every
device that is announced. -/
structure NothingHidden (listed : List DeviceInfo) (samples : List (Sample Announcement)) :
    Prop where
  behind : ∀ id, ∀ info ∈ lastAnnounced id (valid (left samples)),
    standing listed (taken samples) id = some info
  counted : ∀ id, (lastAnnounced id (valid samples)).isSome →
    id ∈ (arrive (listed.map DeviceInfo.deviceID) (taken samples)).take
      ((arrive (listed.map DeviceInfo.deviceID) (taken samples)).length % 2 ^ 32)

theorem lastAnnounced_append (id : ℕ) (as bs : List Announcement) :
    lastAnnounced id (as ++ bs) = (lastAnnounced id bs).or (lastAnnounced id as) := by
  rw [lastAnnounced, List.reverse_append, List.find?_append, Option.map_or]
  rfl

theorem lastAnnounced_id {id : ℕ} {as : List Announcement} {info : DeviceInfo}
    (h : info ∈ lastAnnounced id as) : info.deviceID = id := by
  obtain ⟨a, ha, rfl⟩ := Option.map_eq_some_iff.mp h
  have hid : a.msg.deviceID = id := by simpa using List.find?_some ha
  exact hid

theorem standing_cons (listed : List DeviceInfo) (a : Announcement) (as : List Announcement)
    (id : ℕ) : standing listed (a :: as) id = (lastAnnounced id as).or
      (if a.msg.deviceID = id then some (copyInfo a.msg)
        else listed.find? fun info => info.deviceID == id) := by
  have hone : lastAnnounced id [a] =
      if a.msg.deviceID = id then some (copyInfo a.msg) else none := by
    by_cases hid : a.msg.deviceID = id <;> simp [lastAnnounced, hid]
  rw [standing, ← List.singleton_append, lastAnnounced_append, hone, Option.or_assoc]
  congr 1
  split <;> rfl

def names (ds : List Device) : List ℕ := ds.map fun d => d.info.deviceID

theorem any_named (ds : List Device) (id : ℕ) : ds.any (named id) = true ↔ id ∈ names ds := by
  simp [names, named]

theorem names_add (info : DeviceInfo) (arg : ℕ) (ds : List Device) :
    names (add info arg ds) =
      if info.deviceID ∈ names ds then names ds else info.deviceID :: names ds := by
  rw [add]
  by_cases hknown : ds.any (named info.deviceID) = true
  · rw [if_pos hknown, if_pos ((any_named _ _).mp hknown)]
    refine HeapChain.updateFirst_map _ _ (fun d hd => ?_) ds
    have hid : d.info.deviceID = info.deviceID := by simpa [named] using hd
    exact hid.symm
  · rw [if_neg hknown, if_neg fun hm => hknown ((any_named _ _).mpr hm)]
    rfl

theorem names_assign (id : ℕ) (transfer : Option Assigned) (ds : List Device) :
    names (assign id transfer ds) = names ds := by
  rw [assign]
  split
  · refine HeapChain.updateFirst_map _ _ (fun d _ => ?_) ds
    rfl
  · rfl

theorem names_expire (ds : List Device) (id : ℕ) : names (expire ds id) = names ds := by
  rw [expire]
  split
  · split
    · exact names_assign _ _ ds
    · rfl
  · rfl

theorem names_foldl {β : Type} {f : List Device → β → List Device}
    (hf : ∀ ds b, names (f ds b) = names ds) (bs : List β) (ds : List Device) :
    names (bs.foldl f ds) = names ds := by
  induction bs generalizing ds with
  | nil => rfl
  | cons b bs ih => rw [List.foldl_cons, ih, hf]

theorem names_shadowPoll {replyTimeout now : ℤ} {mallocOk : ℕ → ℕ → Bool}
    {fails : ℕ → Option ℕ} {sh sh' : Shadow}
    (h : shadowPoll replyTimeout now mallocOk fails sh = some sh') :
    names sh'.devices = names sh.devices := by
  rw [shadowPoll] at h
  split at h
  · obtain ⟨⟨reader, ⟨stat, ds⟩, n⟩, hdrain, h⟩ := Option.bind_eq_some_iff.mp h
    obtain ⟨⟨stat', ds'⟩, hdeadline, h⟩ := Option.bind_eq_some_iff.mp h
    obtain rfl := Option.some.inj h
    have hreply : ∀ msg (acc : (FileTransfer.FileTransferStat × List Device) × ℕ) (_ : Unit),
        names acc.1.2 = names sh.devices →
        Option.Rel (fun r _ => names r.1.1.2 = names sh.devices) (shadowReply mallocOk msg acc)
          (some ((), (0 : ℤ))) := by
      rintro msg ⟨⟨stat, ds⟩, n⟩ - hacc
      rw [shadowReply]
      split
      · exact .some hacc
      · exact .some ((names_assign _ _ ds).trans hacc)
    have hrel := rel_drainReplies (R := fun b (_ : Unit) => names b.1.2 = names sh.devices)
      (g := fun _ _ => some ((), 0)) (fun msg acc u => hreply msg acc u) sh.stat.randomSeq fails
      (sh.stat.idNum - sh.stat.recvNum) sh.reader (b := ((sh.stat, sh.devices), 0)) (c := ()) rfl
    rw [hdrain] at hrel
    have hds : names ds = names sh.devices := by
      rcases rel_cases hrel with ⟨hn, -⟩ | ⟨r, u, hr, -, -, hnames⟩
      · cases hn
      · obtain rfl := Option.some.inj hr
        exact hnames
    rw [shadowDeadline] at hdeadline
    split at hdeadline
    · obtain ⟨idList, -, hpair⟩ := Option.map_eq_some_iff.mp hdeadline
      obtain ⟨rfl, rfl⟩ := Prod.mk.inj hpair
      exact (names_foldl names_expire idList ds).trans hds
    · obtain ⟨rfl, rfl⟩ := Prod.mk.inj (Option.some.inj hdeadline)
      exact hds
  · obtain rfl := Option.some.inj h
    rfl

theorem names_shadowStart {req : Option Idl.DataInfoRequest} {now : ℤ} {sh sh' : Shadow}
    (h : shadowStart req now sh = some sh') : names sh'.devices = names sh.devices := by
  rw [shadowStart] at h
  split at h
  · obtain rfl := Option.some.inj h
    rfl
  · obtain ⟨req, -, h⟩ := Option.bind_eq_some_iff.mp h
    split at h
    · cases h
    · obtain rfl := Option.some.inj h
      exact names_foldl (fun ds id => names_assign id _ ds) req.idList sh.devices

theorem shadowUpdate_some {fails : Option ℕ} {sh sh' : Shadow}
    (h : shadowUpdate fails sh = some sh') : ∃ left ret, FailingDrains.tryRecv shadowAdd
      sh.announcements fails sh.devices = some (left, sh'.devices, ret) := by
  rw [shadowUpdate] at h
  split at h
  · cases h
  · obtain ⟨⟨left, ds, ret⟩, hdrain, h⟩ := Option.bind_eq_some_iff.mp h
    obtain rfl := Option.some.inj h
    exact ⟨left, ret, hdrain⟩

theorem nodup_add {ds : List Device} (h : (names ds).Nodup) (info : DeviceInfo) (arg : ℕ) :
    (names (add info arg ds)).Nodup := by
  rw [names_add]
  split
  · exact h
  · next hnew => exact List.nodup_cons.mpr ⟨hnew, h⟩

theorem nodup_shadowUpdate {fails : Option ℕ} {sh sh' : Shadow} (hd : (names sh.devices).Nodup)
    (h : shadowUpdate fails sh = some sh') : (names sh'.devices).Nodup := by
  obtain ⟨left, ret, hdrain⟩ := shadowUpdate_some h
  have hadd : ∀ a ds (_ : Unit), (names ds).Nodup →
      Option.Rel (fun r (_ : Unit × ℤ) => (names r.1).Nodup) (shadowAdd a ds)
        (some ((), (0 : ℤ))) :=
    fun a _ _ hds => .some (nodup_add hds (copyInfo a.msg) a.handle)
  have hrel := FailingDrains.tryRecv_rel (R := fun ds (_ : Unit) => (names ds).Nodup)
    (g := fun _ _ => some ((), 0)) hadd sh.announcements fails (c := ()) hd
  rw [hdrain] at hrel
  rcases rel_cases hrel with ⟨hn, -⟩ | ⟨r, u, hr, -, -, hnames, -⟩
  · cases hn
  · obtain rfl := Option.some.inj hr
    exact hnames

theorem nodup_shadowClose {sh sh' : Shadow} (h : shadowClose sh = some sh') :
    (names sh'.devices).Nodup := by
  rw [shadowClose] at h
  split at h
  · cases h
  · obtain rfl := Option.some.inj h
    exact List.nodup_nil

theorem nodup_shadowReinit {found configOk : Bool} {outcome : RmtServer.InitOutcome}
    {sh sh' : Shadow} (hd : (names sh.devices).Nodup)
    (h : shadowReinit found configOk outcome sh = some sh') : (names sh'.devices).Nodup := by
  rw [shadowReinit] at h
  split at h
  · obtain rfl := Option.some.inj h
    exact hd
  · obtain ⟨closed, hclose, h⟩ := Option.bind_eq_some_iff.mp h
    split at h
    · obtain rfl := Option.some.inj h
      rw [shadowCloseOld] at hclose
      split at hclose
      · obtain rfl := Option.some.inj hclose
        exact hd
      · have hclosed := nodup_shadowClose hclose
        exact hclosed
    · obtain rfl := Option.some.inj h
      exact List.nodup_nil

theorem nodup_next {replyTimeout : ℤ} {sh sh' : Shadow} (hd : (names sh.devices).Nodup) {op : Op}
    (h : next replyTimeout sh op = some sh') : (names sh'.devices).Nodup := by
  cases op with
  | announced | announcementLeaves | replied | replyLeaves | getResult | stop =>
    obtain rfl := Option.some.inj h
    exact hd
  | lost internalId =>
    obtain rfl := Option.some.inj h
    exact hd.sublist (List.eraseP_sublist.map _)
  | update malloc fails =>
    simp only [next] at h
    split at h
    · obtain rfl := Option.some.inj h
      exact hd
    · exact nodup_shadowUpdate hd h
  | poll now mallocOk fails =>
    simp only [next] at h
    split at h
    · obtain rfl := Option.some.inj h
      exact hd
    · cases h
    · rwa [names_shadowPoll h]
  | sendFile | recvFile =>
    rwa [names_shadowStart h]
  | createDeviceList malloc fails mallocOk =>
    simp only [next] at h
    split at h
    · obtain rfl := Option.some.inj h
      exact hd
    · exact nodup_shadowUpdate hd h
  | reinit found configOk outcome => exact nodup_shadowReinit hd h
  | init outcome =>
    obtain rfl := Option.some.inj h
    rw [shadowInit]
    split <;> exact List.nodup_nil
  | deinit => exact nodup_shadowClose h

/-- A step of the server, given what the memory that nothing has assigned holds. -/
def callState (replyTimeout : ℤ) (s : Server) (e : (ℕ → Memory) × Op) : Option Server :=
  (step replyTimeout e.1 s e.2).map Prod.fst

theorem fits_none (memory : ℕ → Memory) : Fits none memory := by
  rintro c ⟨⟩

theorem reached_shadow {replyTimeout : ℤ} {s : Server}
    (h : Reachable (callState replyTimeout) ServerCalls.initial s) :
    ∃ sh, Knows none s sh ∧ (names sh.devices).Nodup := by
  refine h.invariant (I := fun s => ∃ sh, Knows none s sh ∧ (names sh.devices).Nodup)
    ⟨shadowInitial, knows_initial none, List.nodup_nil⟩ ?_
  rintro s ⟨memory, op⟩ t ⟨sh, hk, hd⟩ - hstep
  obtain ⟨⟨t', out⟩, hs, rfl⟩ := Option.map_eq_some_iff.mp hstep
  have hrel := follows replyTimeout none memory s sh op (fits_none memory) hk
  rw [hs] at hrel
  cases hn : next replyTimeout sh op with
  | none =>
    rw [hn] at hrel
    cases hrel
  | some sh' =>
    rw [hn] at hrel
    cases hrel with
    | some hr => exact ⟨sh', hr.1, nodup_next hd hn⟩

def addAll (ds : List Device) (as : List Announcement) : List Device :=
  as.foldl (fun ds a => add (copyInfo a.msg) a.handle ds) ds

def infos (ds : List Device) : List DeviceInfo := ds.map Device.info

theorem runCallback_shadowAdd (ds : List Device) (as : List Announcement) :
    DdsTransport.runCallback shadowAdd ds as = some (addAll ds as) := by
  induction as generalizing ds with
  | nil => rfl
  | cons a as ih =>
    rw [DdsTransport.runCallback_cons]
    exact ih _

theorem shadowUpdate_none {sh : Shadow} (hopen : sh.transport = .opened) :
    shadowUpdate none sh = some { sh with
      announcements := left sh.announcements
      devices := addAll sh.devices (taken sh.announcements) } := by
  rw [shadowUpdate, if_neg (not_not.mpr hopen), FailingDrains.tryRecv_none,
    DdsTransport.tryRecv_eq, runCallback_shadowAdd]
  rfl

theorem find?_add (info : DeviceInfo) (arg : ℕ) (ds : List Device) (id : ℕ) :
    (infos (add info arg ds)).find? (fun i => i.deviceID == id) =
      if info.deviceID = id then some info
      else (infos ds).find? fun i => i.deviceID == id := by
  rw [add]
  split
  · next hknown =>
    induction ds with
    | nil => simp at hknown
    | cons d ds ih =>
      rw [HeapChain.updateFirst_cons]
      by_cases hd : named info.deviceID d = true
      · have hid : d.info.deviceID = info.deviceID := by simpa [named] using hd
        rw [if_pos hd]
        simp only [infos, List.map_cons, List.find?_cons, hid]
        by_cases he : info.deviceID = id
        · simp [he]
        · simp [he, beq_eq_false_iff_ne.mpr he]
      · have hid : d.info.deviceID ≠ info.deviceID := by simpa [named] using hd
        have hrest := ih (by simpa [hd] using hknown)
        rw [if_neg hd]
        simp only [infos, List.map_cons, List.find?_cons] at hrest ⊢
        rw [hrest]
        by_cases he : info.deviceID = id
        · subst he
          simp [beq_eq_false_iff_ne.mpr hid]
        · simp only [if_neg he]
  · by_cases he : info.deviceID = id <;> simp [infos, he]

theorem find?_addAll (ds : List Device) (as : List Announcement) (id : ℕ) :
    (infos (addAll ds as)).find? (fun i => i.deviceID == id) = standing (infos ds) as id := by
  induction as generalizing ds with
  | nil => rfl
  | cons a as ih =>
    have hone : (infos (add (copyInfo a.msg) a.handle ds)).find? (fun i => i.deviceID == id) =
        if a.msg.deviceID = id then some (copyInfo a.msg)
        else (infos ds).find? fun i => i.deviceID == id := find?_add _ _ ds id
    rw [standing_cons, ← hone]
    exact ih _

theorem names_addAll (ds : List Device) (as : List Announcement) :
    names (addAll ds as) = arrive (names ds) as := by
  induction as generalizing ds with
  | nil => rfl
  | cons a as ih =>
    have hone := names_add (copyInfo a.msg) a.handle ds
    rw [arrive, List.foldl_cons, ← arrive]
    exact (ih _).trans (congrArg (arrive · as) hone)

theorem nodup_addAll {ds : List Device} (h : (names ds).Nodup) (as : List Announcement) :
    (names (addAll ds as)).Nodup := by
  induction as generalizing ds with
  | nil => exact h
  | cons a as ih => exact ih (nodup_add h _ _)

theorem mem_infos_take {ds : List Device} (hd : (names ds).Nodup) (n : ℕ) (info : DeviceInfo) :
    info ∈ infos (ds.take n) ↔
      (infos ds).find? (fun i => i.deviceID == info.deviceID) = some info ∧
        info.deviceID ∈ (names ds).take n := by
  have hids : (infos ds).map DeviceInfo.deviceID = names ds := by simp [infos, names]
  have htake : infos (ds.take n) = (infos ds).take n := List.map_take
  rw [htake, ← hids]
  rw [← hids] at hd
  constructor
  · intro hm
    refine ⟨?_, ?_⟩
    · cases hf : (infos ds).find? fun i => i.deviceID == info.deviceID with
      | none =>
        have hnone := List.find?_eq_none.mp hf info (List.mem_of_mem_take hm)
        simp at hnone
      | some i =>
        have hid : i.deviceID = info.deviceID := by simpa using List.find?_some hf
        rw [List.inj_on_of_nodup_map hd (List.mem_of_find?_eq_some hf)
          (List.mem_of_mem_take hm) hid]
    · rw [← List.map_take]
      exact List.mem_map_of_mem hm
  · rintro ⟨hf, hm⟩
    rw [← List.map_take] at hm
    obtain ⟨i, hi, hid⟩ := List.mem_map.mp hm
    have heq := List.inj_on_of_nodup_map hd (List.mem_of_mem_take hi)
      (List.mem_of_find?_eq_some hf) hid
    exact heq ▸ hi

/-- Whether a drained list has all that was announced is decided by what the drain leaves. -/
theorem complete_iff {ds : List Device} (hd : (names ds).Nodup)
    (samples : List (Sample Announcement)) :
    Complete samples (infos (window (addAll ds (taken samples)))) ↔
      NothingHidden (infos ds) samples := by
  have hids : (infos ds).map DeviceInfo.deviceID = names ds := by simp [infos, names]
  have hlen : (addAll ds (taken samples)).length = (arrive (names ds) (taken samples)).length := by
    rw [← names_addAll, names, List.length_map]
  have hmem : ∀ info, info ∈ infos (window (addAll ds (taken samples))) ↔
      standing (infos ds) (taken samples) info.deviceID = some info ∧
        info.deviceID ∈ (arrive (names ds) (taken samples)).take
          ((arrive (names ds) (taken samples)).length % 2 ^ 32) := by
    intro info
    rw [window, mem_infos_take (nodup_addAll hd _), find?_addAll, names_addAll, hlen]
  have hlast : ∀ id, lastAnnounced id (valid samples) =
      (lastAnnounced id (valid (left samples))).or (lastAnnounced id (taken samples)) := by
    intro id
    rw [← DdsTransport.taken_append_left samples, lastAnnounced_append]
  constructor
  · intro h
    refine ⟨?_, ?_⟩
    · intro id info hinfo
      obtain rfl := lastAnnounced_id hinfo
      have hvalid : info ∈ lastAnnounced info.deviceID (valid samples) := by
        rw [hlast, Option.mem_def.mp hinfo]
        rfl
      exact ((hmem info).mp (h _ info hvalid)).1
    · intro id hsome
      obtain ⟨info, hinfo⟩ := Option.isSome_iff_exists.mp hsome
      obtain rfl := lastAnnounced_id hinfo
      rw [hids]
      exact ((hmem info).mp (h _ info hinfo)).2
  · rintro ⟨hbehind, hcounted⟩ id info hinfo
    obtain rfl := lastAnnounced_id hinfo
    have hcount := hcounted info.deviceID (Option.isSome_of_mem hinfo)
    rw [hids] at hcount
    refine (hmem info).mpr ⟨?_, hcount⟩
    cases hb : lastAnnounced info.deviceID (valid (left samples)) with
    | some info' =>
      rw [hlast, hb, Option.some_or, Option.mem_some_iff] at hinfo
      subst hinfo
      exact hbehind _ _ hb
    | none =>
      -- the last announcement was taken, so it is what stands
      rw [hlast, hb, Option.none_or] at hinfo
      rw [standing, Option.mem_def.mp hinfo]
      rfl

def registered (s : Server) : List DeviceInfo :=
  ((DeviceCallbacks.devices s.files.registry).getD []).map DevList.info

theorem registered_eq {s : Server} {sh : Shadow} (h : Knows none s sh) :
    registered s = infos sh.devices := by
  obtain ⟨t, ht, hds⟩ := h.devices
  have hwalk : DeviceCallbacks.devices s.files.registry = some t := by
    rw [DeviceCallbacks.devices, ht.owned.card]
    exact ht.owned.copyCounted
  rw [registered, hwalk, Option.getD_some, infos, ← List.forall₂_eq_eq_eq,
    List.forall₂_map_left_iff, List.forall₂_map_right_iff]
  exact hds.imp fun _ _ hd => hd.info

/-- A running server whose drain does not fail creates a list of all announced devices exactly if
nothing new lies behind the first sample without valid data. -/
theorem created_list_complete_iff {replyTimeout : ℤ} {s : Server}
    (hs : Reachable (callState replyTimeout) ServerCalls.initial s) (hrun : s.status = .running)
    (hopen : s.transport = .opened) (malloc : Malloc) (memory : ℕ → Memory) :
    ∃ s' dev num, rmtServerCreateDeviceList malloc none true memory s =
        some (s', .deviceList (.list dev) num) ∧
      (Complete s.announcements dev ↔ NothingHidden (registered s) s.announcements) := by
  obtain ⟨sh, hk, hd⟩ := reached_shadow hs
  have hrun' : sh.status = .running := hk.status.symm.trans hrun
  have hopen' : sh.transport = .opened := hk.transport.symm.trans hopen
  have hupdate := shadowUpdate_none hopen'
  have hnext : next replyTimeout sh (.createDeviceList malloc none true) =
      some { sh with
        announcements := left sh.announcements
        devices := addAll sh.devices (taken sh.announcements) } := by
    rw [← hupdate]
    exact if_neg (not_not.mpr hrun')
  have hanswer : answer sh (.createDeviceList malloc none true) = some (.deviceList
      (.list (infos (window (addAll sh.devices (taken sh.announcements)))))
      (BitVec.ofNat 32 (addAll sh.devices (taken sh.announcements)).length).toInt) := by
    rw [answer, if_neg (not_not.mpr hrun'), hupdate]
    rfl
  have hrel := knows_createDeviceList (fits_none memory) hk replyTimeout malloc none true
  dsimp only at hrel
  rcases rel_cases hrel with ⟨-, hnone⟩ | ⟨⟨s', out⟩, sh', hcreate, -, -, hout⟩
  · rw [hnext] at hnone
    cases hnone
  · have hdefined : Defined sh (.createDeviceList malloc none true) := fun _ _ => rfl
    obtain rfl := Option.some.inj ((hout hdefined).trans hanswer)
    refine ⟨s', _, _, hcreate, ?_⟩
    rw [registered_eq hk, hk.announcements]
    exact complete_iff hd sh.announcements

def started (samples : List (Sample Announcement)) : Server :=
  { rmtServerInit .created ServerCalls.initial with announcements := samples }

theorem reached_started (replyTimeout : ℤ) (samples : List (Sample Announcement)) :
    Reachable (callState replyTimeout) ServerCalls.initial (started samples) := by
  induction samples using List.reverseRecOn with
  | nil => exact Execution.tail .refl trivial (e := (fun _ => zeros, .init .created)) rfl
  | append_singleton samples sample ih =>
    exact Execution.tail ih trivial (e := (fun _ => zeros, .announced sample)) rfl

def notice : Sample Announcement := ⟨false, 8, ⟨4, [], [], [], [], [], []⟩⟩

def joined : Sample Announcement := ⟨true, 9, ⟨5, [], [], [], [], [], []⟩⟩

theorem created_list_complete_in_front : ∃ s' dev num,
    rmtServerCreateDeviceList Malloc.bump none true (fun _ => zeros) (started [joined, notice]) =
      some (s', .deviceList (.list dev) num) ∧ Complete [joined, notice] dev := by
  obtain ⟨s', dev, num, hcreate, hiff⟩ := created_list_complete_iff
    (reached_started 5 [joined, notice]) rfl rfl Malloc.bump fun _ => zeros
  refine ⟨s', dev, num, hcreate, hiff.mpr ⟨?_, ?_⟩⟩
  · rintro id info ⟨⟩
  · intro id hsome
    obtain ⟨info, hinfo⟩ := Option.isSome_iff_exists.mp hsome
    obtain ⟨a, ha, rfl⟩ := Option.map_eq_some_iff.mp hinfo
    have hid : a.msg.deviceID = id := by simpa using List.find?_some ha
    have hmem : a ∈ [joined.data] := List.mem_of_find?_eq_some ha
    obtain rfl := List.mem_singleton.mp hmem
    subst hid
    decide

/-- The announcement behind the notice stays in the reader, and device 5 is not in the list. -/
theorem created_list_misses_device : ∃ s s' num,
    Reachable (callState 5) ServerCalls.initial s ∧ s.status = .running ∧
      s.transport = .opened ∧
      rmtServerCreateDeviceList Malloc.bump none true (fun _ => zeros) s =
        some (s', .deviceList (.list []) num) ∧ ¬ Complete s.announcements [] := by
  refine ⟨started [notice, joined], started [joined], 0, reached_started 5 _, rfl, rfl, rfl, ?_⟩
  intro h
  have hmem := h 5 (copyInfo joined.data.msg) rfl
  cases hmem

end DeviceListing
