import RmtLibrary.DeviceRegistry
import RmtLibrary.FileTransfer

/-! # What the steps of a file transfer do to the device table

A poll sets the status of the devices whose replies it takes, and past the deadline that of the
devices of the ID list that are still running. Nothing else about a device changes. -/
namespace TransferEffects

open DdsTransport (Sample takenOf leftOf mem_takenOf runCallback)
open DeviceRegistry
open DevinfoServer
open FileTransfer
open HeapChain (updateFirst)
open Idl (DataInfoReply)

theorem take_updateFirst {α : Type} (p : α → Bool) (f : α → α) (n : ℕ) (vs : List α) :
    (updateFirst p f vs).take n = updateFirst p f (vs.take n) := by
  induction vs generalizing n with
  | nil => simp
  | cons v vs ih =>
    cases n with
    | zero => simp
    | succ n =>
      rw [HeapChain.updateFirst_cons, List.take_succ_cons, HeapChain.updateFirst_cons]
      split
      · simp
      · simp [ih]

theorem tableGetStatus_set (num id id' : ℕ) (st : TransferStatus) (res : TransferResult)
    (t : List DevList) : tableGetStatus num id' (tableSetStatus num id st res t) =
      if id' = id ∧ (t.take num).any (hasId id) then (st, res) else tableGetStatus num id' t := by
  rw [tableSetStatus]
  by_cases hany : (t.take num).any (hasId id)
  · rw [if_pos hany, tableGetStatus, take_updateFirst,
      find?_updateFirst (withStatus st res) id id' _ (fun _ h => h)]
    by_cases he : id' = id
    · subst he
      obtain ⟨dev, hdev⟩ := find?_of_any hany
      simp [hdev, hany, withStatus]
    · simp [he, tableGetStatus]
  · simp [hany]

/-- What may have happened to the devices of a table: a change of status or result, for the
devices with `R` only. -/
def Changed (R : DevList → Prop) : List DevList → List DevList → Prop :=
  List.Forall₂ fun dev dev' => dev'.info = dev.info ∧ dev'.internalId = dev.internalId ∧
    (dev' = dev ∨ R dev)

theorem Changed.refl (R : DevList → Prop) (t : List DevList) : Changed R t t := by
  induction t with
  | nil => exact .nil
  | cons dev t ih => exact .cons ⟨rfl, rfl, Or.inl rfl⟩ ih

theorem Changed.trans {R R' Q : DevList → Prop} {t t' t'' : List DevList}
    (h : Changed R t t') (h' : Changed R' t' t'') (hR : ∀ dev, R dev → Q dev)
    (hR' : ∀ dev, R' dev → Q dev) : Changed Q t t'' := by
  induction h generalizing t'' with
  | nil =>
    cases h'
    exact .nil
  | cons hd _ ih =>
    cases h' with
    | cons hd' ht' =>
      obtain ⟨hinfo, hint, hsame⟩ := hd
      obtain ⟨hinfo', hint', hsame'⟩ := hd'
      refine .cons ⟨hinfo'.trans hinfo, hint'.trans hint, ?_⟩ (ih ht')
      rcases hsame with he | hr
      · subst he
        exact hsame'.imp_right (hR' _)
      · exact Or.inr (hR _ hr)

theorem Changed.mono {R Q : DevList → Prop} {t t' : List DevList} (h : Changed R t t')
    (hR : ∀ dev, R dev → Q dev) : Changed Q t t' :=
  h.trans (Changed.refl Q t') hR fun _ hq => hq

theorem Changed.ids {R : DevList → Prop} {t t' : List DevList} (h : Changed R t t') :
    DeviceRegistry.ids t' = DeviceRegistry.ids t := by
  induction h with
  | nil => rfl
  | cons hd _ ih =>
    simp only [DeviceRegistry.ids, List.map_cons, hd.1] at ih ⊢
    rw [ih]

theorem changed_set (num id : ℕ) (st : TransferStatus) (res : TransferResult)
    (t : List DevList) : Changed (fun dev => dev.info.deviceID = id ∧
      (t.take num).find? (hasId id) = some dev) t (tableSetStatus num id st res t) := by
  rw [tableSetStatus]
  split
  · next hany =>
    induction t generalizing num with
    | nil => exact .nil
    | cons dev t ih =>
      cases num with
      | zero => simp at hany
      | succ num =>
        rw [HeapChain.updateFirst_cons]
        by_cases hd : hasId id dev
        · rw [if_pos hd]
          refine .cons ⟨rfl, rfl, Or.inr ⟨by simpa [hasId] using hd, by simp [hd]⟩⟩ ?_
          exact Changed.refl _ t
        · rw [if_neg hd]
          have hrest : (t.take num).any (hasId id) = true := by simpa [hd] using hany
          refine .cons ⟨rfl, rfl, Or.inl rfl⟩ ?_
          have hih := ih num hrest
          simp only [Changed] at hih
          simpa [hd] using hih
  · exact Changed.refl _ t

def isFor (stat : FileTransferStat) (reply : DataInfoReply) : Bool :=
  reply.type = stat.type ∧ reply.randomSeq = stat.randomSeq

def applyReplies (env : PollEnv) (num : ℕ) (replies : List DataInfoReply) (t : List DevList) :
    List DevList :=
  replies.foldl (fun t reply => tableSetStatus num reply.deviceID (replyStatus env reply).1
    (replyStatus env reply).2 t) t

/-- The samples that `n` drains of one instance take, and those they leave. -/
def pollTaken (instanceKey : ℕ) : ℕ → List (Sample DataInfoReply) → List DataInfoReply
  | 0, _ => []
  | n + 1, reader => takenOf DataInfoReply.randomSeq instanceKey reader ++
      pollTaken instanceKey n (leftOf DataInfoReply.randomSeq instanceKey reader)

def pollLeft (instanceKey : ℕ) : ℕ → List (Sample DataInfoReply) → List (Sample DataInfoReply)
  | 0, reader => reader
  | n + 1, reader => pollLeft instanceKey n (leftOf DataInfoReply.randomSeq instanceKey reader)

theorem mem_pollTaken {instanceKey m : ℕ} {reader : List (Sample DataInfoReply)}
    {reply : DataInfoReply} (h : reply ∈ pollTaken instanceKey m reader) :
    ⟨true, reply⟩ ∈ reader := by
  induction m generalizing reader with
  | zero => cases h
  | succ m ih =>
    rcases List.mem_append.mp h with h | h
    · exact mem_takenOf h
    · exact (DdsTransport.leftOf_sublist _ _ _).subset (ih h)

theorem pollLeft_subset (instanceKey m : ℕ) (reader : List (Sample DataInfoReply)) :
    pollLeft instanceKey m reader ⊆ reader := by
  induction m generalizing reader with
  | zero => exact List.Subset.refl reader
  | succ m ih => exact List.Subset.trans (ih _) (DdsTransport.leftOf_sublist _ _ _).subset

def counted (stat : FileTransferStat) (reader : List (Sample DataInfoReply)) :
    List DataInfoReply :=
  (pollTaken stat.randomSeq (stat.idNum - stat.recvNum) reader).filter (isFor stat)

theorem changed_replies (env : PollEnv) (num : ℕ) (replies : List DataInfoReply)
    (t : List DevList) :
    Changed (fun dev => ∃ reply ∈ replies, reply.deviceID = dev.info.deviceID) t
      (applyReplies env num replies t) := by
  induction replies generalizing t with
  | nil => exact Changed.refl _ t
  | cons reply replies ih =>
    refine (changed_set num reply.deviceID _ _ t).trans (ih _) ?_ ?_
    · intro dev hd
      exact ⟨reply, List.mem_cons_self, hd.1.symm⟩
    · rintro dev ⟨r, hr, he⟩
      exact ⟨r, List.mem_cons_of_mem _ hr, he⟩

theorem recvFileTransferReply_table (env : PollEnv) (stat : FileTransferStat)
    {registry : Registry} {t : List DevList} (h : HoldsTable registry t)
    (msgs : List DataInfoReply) :
    ∃ registry', runCallback (recvFileTransferReply env) (stat, registry) msgs =
        some ({ stat with recvNum := stat.recvNum + (msgs.filter (isFor stat)).length },
          registry') ∧
      HoldsTable registry'
        (applyReplies env registry.gDevNum.toNat (msgs.filter (isFor stat)) t) ∧
      registry'.gDevNum = registry.gDevNum := by
  induction msgs generalizing stat registry t with
  | nil => exact ⟨registry, rfl, h, rfl⟩
  | cons msg msgs ih =>
    rw [DdsTransport.runCallback_cons]
    by_cases hfor : isFor stat msg
    · have hown : ¬ (msg.type ≠ stat.type ∨ msg.randomSeq ≠ stat.randomSeq) := by
        simpa [isFor] using hfor
      obtain ⟨reg₁, hset, ht₁, hnum₁⟩ := setStatusById_table h msg.deviceID
        (replyStatus env msg).1 (replyStatus env msg).2
      have hrecv : recvFileTransferReply env msg (stat, registry) =
          some (({ stat with recvNum := stat.recvNum + 1 }, reg₁), 0) := by
        simp only [recvFileTransferReply, if_neg hown, hset, Option.bind_eq_bind, Option.bind_some]
      have hsame : isFor { stat with recvNum := stat.recvNum + 1 } = isFor stat := rfl
      obtain ⟨reg₂, hrest, ht₂, hnum₂⟩ :=
        ih { stat with recvNum := stat.recvNum + 1 } ht₁
      rw [hnum₁, hsame] at ht₂
      refine ⟨reg₂, ?_, ?_, hnum₂.trans hnum₁⟩
      · rw [hrecv, Option.bind_some, hrest, hsame, List.filter_cons_of_pos hfor, List.length_cons]
        simp only [Nat.add_assoc, Nat.add_comm 1]
      · rw [List.filter_cons_of_pos hfor]
        exact ht₂
    · have hother : msg.type ≠ stat.type ∨ msg.randomSeq ≠ stat.randomSeq := by
        rw [isFor, decide_eq_true_eq, not_and_or] at hfor
        exact hfor
      have hrecv : recvFileTransferReply env msg (stat, registry) =
          some ((stat, registry), -1) := if_pos hother
      rw [hrecv, Option.bind_some, List.filter_cons_of_neg hfor]
      exact ih stat h

theorem applyReplies_append (env : PollEnv) (num : ℕ) (rs rs' : List DataInfoReply)
    (t : List DevList) : applyReplies env num (rs ++ rs') t =
      applyReplies env num rs' (applyReplies env num rs t) := List.foldl_append

theorem drainReplies_table (env : PollEnv) (instanceKey n : ℕ)
    (reader : List (Sample DataInfoReply)) (stat : FileTransferStat) {registry : Registry}
    {t : List DevList} (h : HoldsTable registry t) :
    let got := (pollTaken instanceKey n reader).filter (isFor stat)
    ∃ registry', drainReplies env instanceKey n reader (stat, registry) =
        some (pollLeft instanceKey n reader,
          { stat with recvNum := stat.recvNum + got.length }, registry') ∧
      HoldsTable registry' (applyReplies env registry.gDevNum.toNat got t) ∧
      registry'.gDevNum = registry.gDevNum := by
  induction n generalizing reader stat registry t with
  | zero => exact ⟨registry, rfl, h, rfl⟩
  | succ n ih =>
    obtain ⟨reg₁, hfirst, ht₁, hnum₁⟩ := recvFileTransferReply_table env stat h
      (takenOf DataInfoReply.randomSeq instanceKey reader)
    let stat₁ : FileTransferStat := { stat with recvNum := stat.recvNum +
      ((takenOf DataInfoReply.randomSeq instanceKey reader).filter (isFor stat)).length }
    have hsame : isFor stat₁ = isFor stat := rfl
    obtain ⟨reg₂, hrest, ht₂, hnum₂⟩ :=
      ih (leftOf DataInfoReply.randomSeq instanceKey reader) stat₁ ht₁
    rw [hsame] at hrest ht₂
    rw [hnum₁] at ht₂
    refine ⟨reg₂, ?_, ?_, hnum₂.trans hnum₁⟩
    · simp only [drainReplies, DdsTransport.tryRecvInstance_eq, hfirst, Option.map_some,
        Option.bind_eq_bind, Option.bind_some, pollLeft, pollTaken, List.filter_append,
        List.length_append, ← Nat.add_assoc]
      exact hrest
    · rw [pollTaken, List.filter_append, applyReplies_append]
      exact ht₂

def tableExpireDevice (num : ℕ) (t : List DevList) (id : ℕ) : List DevList :=
  if (tableGetStatus num id t).1 = .running then
    tableSetStatus num id .agentError emptyResult t
  else t

def tableExpire (num : ℕ) (ids : List ℕ) (t : List DevList) : List DevList :=
  ids.foldl (tableExpireDevice num) t

theorem expireDevice_table {registry : Registry} {t : List DevList} (h : HoldsTable registry t)
    (id : ℕ) : ∃ registry', expireDevice registry id = some registry' ∧
      HoldsTable registry' (tableExpireDevice registry.gDevNum.toNat t id) ∧
      registry'.gDevNum = registry.gDevNum := by
  have hget := getStatusById_table h id
  by_cases hrun : (tableGetStatus registry.gDevNum.toNat id t).1 = .running
  · obtain ⟨reg₁, hset, ht₁, hnum₁⟩ := setStatusById_table h id .agentError emptyResult
    refine ⟨reg₁, ?_, ?_, hnum₁⟩
    · simp [expireDevice, hget, hrun, hset]
    · rwa [tableExpireDevice, if_pos hrun]
  · refine ⟨registry, ?_, ?_, rfl⟩
    · simp [expireDevice, hget, hrun]
    · rwa [tableExpireDevice, if_neg hrun]

theorem expire_table (ids : List ℕ) {registry : Registry} {t : List DevList}
    (h : HoldsTable registry t) : ∃ registry', ids.foldlM expireDevice registry = some registry' ∧
      HoldsTable registry' (tableExpire registry.gDevNum.toNat ids t) ∧
      registry'.gDevNum = registry.gDevNum := by
  induction ids generalizing registry t with
  | nil => exact ⟨registry, rfl, h, rfl⟩
  | cons id ids ih =>
    obtain ⟨reg₁, hfirst, ht₁, hnum₁⟩ := expireDevice_table h id
    obtain ⟨reg₂, hrest, ht₂, hnum₂⟩ := ih ht₁
    rw [hnum₁] at ht₂
    refine ⟨reg₂, ?_, ht₂, hnum₂.trans hnum₁⟩
    rw [List.foldlM_cons, hfirst]
    exact hrest

theorem any_of_running {num id : ℕ} {t : List DevList}
    (h : (tableGetStatus num id t).1 = .running) : (t.take num).any (hasId id) = true := by
  by_contra hany
  have hnone : (t.take num).find? (hasId id) = none := by
    rw [List.find?_eq_none]
    intro dev hd hdev
    exact hany (List.any_eq_true.mpr ⟨dev, hd, hdev⟩)
  simp [tableGetStatus, hnone] at h

theorem running_tableExpire {num id : ℕ} {ids : List ℕ} {t : List DevList}
    (h : (tableGetStatus num id (tableExpire num ids t)).1 = .running) :
    id ∉ ids ∧ (tableGetStatus num id t).1 = .running := by
  induction ids generalizing t with
  | nil => exact ⟨List.not_mem_nil, h⟩
  | cons id₁ ids ih =>
    obtain ⟨hnot, hrun⟩ := ih h
    rw [tableExpireDevice] at hrun
    split at hrun
    · rw [tableGetStatus_set] at hrun
      split at hrun
      · simp at hrun
      · next hne hother =>
        refine ⟨?_, hrun⟩
        intro hm
        rcases List.mem_cons.mp hm with rfl | hm
        · -- the device runs, so it is found, and setting its status takes effect
          exact hother ⟨rfl, any_of_running hrun⟩
        · exact hnot hm
    · next hstop =>
      refine ⟨?_, hrun⟩
      intro hm
      rcases List.mem_cons.mp hm with rfl | hm
      · exact hstop hrun
      · exact hnot hm

theorem changed_expire (num : ℕ) (ids : List ℕ) (t : List DevList) :
    Changed (fun dev => dev.info.deviceID ∈ ids ∧ dev.agentTransferStatus = .running) t
      (tableExpire num ids t) := by
  induction ids generalizing t with
  | nil => exact Changed.refl _ t
  | cons id ids ih =>
    have hfirst : Changed (fun dev => dev.info.deviceID ∈ id :: ids ∧
        dev.agentTransferStatus = .running) t (tableExpireDevice num t id) := by
      rw [tableExpireDevice]
      split
      · next hrun =>
        apply (changed_set num id _ _ t).mono
        rintro dev ⟨rfl, hfind⟩
        refine ⟨List.mem_cons_self, ?_⟩
        simpa [tableGetStatus, hfind] using hrun
      · exact Changed.refl _ t
    refine hfirst.trans (ih _) (fun _ h => h) ?_
    rintro dev ⟨hm, hrun⟩
    exact ⟨List.mem_cons_of_mem _ hm, hrun⟩

def polledTable (replyTimeout : ℤ) (env : PollEnv) (s : FileServer) (ids : List ℕ)
    (t : List DevList) : List DevList :=
  let num := s.registry.gDevNum.toNat
  let t := applyReplies env num (counted s.gFileTransferStat s.reader) t
  if env.now - s.gFileTransferStat.startTime > replyTimeout then tableExpire num ids t else t

/-- The poll of a running transfer does not fault, and is over if the count is reached or the
deadline has passed. -/
theorem poll_running (replyTimeout : ℤ) (env : PollEnv) {s : FileServer} {t : List DevList}
    (h : HoldsTable s.registry t) (hrun : s.gFileTransferStat.status = 1) {ids : List ℕ}
    (hids : s.gFileTransferStat.idList = some ids)
    (hnum : ids.length = s.gFileTransferStat.idNum) :
    let stat := s.gFileTransferStat
    let recvNum := stat.recvNum + (counted stat s.reader).length
    let ends := recvNum = stat.idNum ∨ env.now - stat.startTime > replyTimeout
    ∃ s', dataserverInfoFileTransferThread replyTimeout env s = some s' ∧
      HoldsTable s'.registry (polledTable replyTimeout env s ids t) ∧
      s'.registry.gDevNum = s.registry.gDevNum ∧
      s'.gFileTransferStat = { stat with
        recvNum
        status := if ends then 0 else 1
        idList := if ends then none else some ids
        idNum := if ends then 0 else stat.idNum } := by
  intro stat recvNum ends
  obtain ⟨reg₁, hdrain, ht₁, hnum₁⟩ := drainReplies_table env stat.randomSeq
    (stat.idNum - stat.recvNum) s.reader stat h
  obtain ⟨reg₂, hexpire, ht₂, hnum₂⟩ := expire_table ids ht₁
  rw [hnum₁] at ht₂
  have hrun' : stat.status = 1 := hrun
  let stat₁ : FileTransferStat := { stat with recvNum }
  have hpoll : dataserverInfoFileTransferThread replyTimeout env s =
      (checkDeadline replyTimeout env.now (checkCount stat₁) reg₁).map fun r =>
        ⟨freeResource r.1, r.2, pollLeft stat.randomSeq (stat.idNum - stat.recvNum) s.reader⟩ := by
    have hbegin : dataserverInfoFileTransferThread replyTimeout env s = _ := if_pos hrun
    rw [hbegin, hdrain]
    cases hd : checkDeadline replyTimeout env.now (checkCount stat₁) reg₁ <;>
      simp [stat₁, recvNum, counted] at hd ⊢ <;> simp [hd]
  have hcount : checkCount stat₁ =
      { stat₁ with status := if recvNum = stat.idNum then 0 else 1 } := by
    by_cases hc : recvNum = stat.idNum <;> simp [checkCount, stat₁, hc, hrun']
  have hread : readIdList (checkCount stat₁) = some ids := by
    rw [hcount]
    by_cases hz : stat.idNum = 0
    · have hnil : ids = [] := List.eq_nil_of_length_eq_zero (hnum.trans hz)
      simp [readIdList, stat₁, hz, hnil]
    · have htake : ids.take stat.idNum = ids := by rw [← hnum, List.take_length]
      have hlist : stat.idList = some ids := hids
      simp [readIdList, stat₁, hlist, hz, htake, hnum, stat]
  have hexpired : expireRunning (checkCount stat₁) reg₁ = some reg₂ := by
    rw [expireRunning, hread]
    exact hexpire
  by_cases hdead : env.now - stat.startTime > replyTimeout
  · have hover : ends := Or.inr hdead
    have hcheck : checkDeadline replyTimeout env.now (checkCount stat₁) reg₁ =
        some ({ stat₁ with status := 0 }, reg₂) := by
      rw [checkDeadline, hexpired, hcount, if_pos hdead]
      rfl
    refine ⟨_, by rw [hpoll, hcheck]; rfl, ?_, hnum₂.trans hnum₁, ?_⟩
    · rw [polledTable, if_pos hdead]
      exact ht₂
    · simp [freeResource, stat₁, hover]
  · have hcheck : checkDeadline replyTimeout env.now (checkCount stat₁) reg₁ =
        some (checkCount stat₁, reg₁) := by
      rw [checkDeadline, hcount, if_neg hdead]
    refine ⟨_, by rw [hpoll, hcheck]; rfl, ?_, hnum₁, ?_⟩
    · rw [polledTable, if_neg hdead]
      exact ht₁
    · have hlist : stat.idList = some ids := hids
      change freeResource (checkCount stat₁) = _
      rw [hcount]
      by_cases hc : recvNum = stat.idNum
      · have hover : ends := Or.inl hc
        simp only [freeResource, stat₁, if_pos hc, if_pos hover, if_true]
      · have hover : ¬ ends := not_or.mpr ⟨hc, hdead⟩
        simp only [freeResource, stat₁, if_neg hc, if_neg hover, one_ne_zero, if_false, hlist]

end TransferEffects
