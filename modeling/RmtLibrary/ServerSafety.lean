import RmtLibrary.DefinedOutputs

/-! # Where a server that is used as intended can fault

An application brings the server up, calls it and takes it down again, and the receive thread runs
in between. What such a run does is read off the shadow of the server. -/
namespace ServerSafety

open CString (Text)
open DefinedOutputs
open FileTransfer
open GuardedExecution
open HeapChain (Malloc)
open Idl (DataInfoReply DataInfoRequest)
open RmtServer (InitOutcome ServerStatus)
open ServerCalls
open TwoRuns (rel_cases)

/-- `up` from an `rmt_server_init` that answers 0 up to the next `rmt_server_deinit`. -/
structure Session where
  server : Server
  up : Bool

/-- `memory` is what memory that nothing has assigned holds in the step. -/
structure Event where
  memory : ℕ → Memory
  op : Op

def initial : Session := ⟨ServerCalls.initial, false⟩

def upBehind (up : Bool) (transport : Transport) : Op → Bool
  | .init _ => transport != .null
  | .deinit => false
  | _ => up

def step (replyTimeout : ℤ) (s : Session) (e : Event) : Option Session :=
  (ServerCalls.step replyTimeout e.memory s.server e.op).map fun r =>
    ⟨r.1, upBehind s.up r.1.transport e.op⟩

/-- Calls and the receive thread need a server that is up, `rmt_server_init` one that is not, and
a creation that fails answers `NULL`. -/
def Proper (up : Bool) : Op → Prop
  | .init outcome => up = false ∧ outcome ≠ .failed
  | .reinit _ _ outcome => up = true ∧ outcome ≠ .failed
  | .update _ _ | .poll _ _ _ | .sendFile _ _ _ _ _ _ | .recvFile _ _ _ _ _ |
    .createDeviceList _ _ _ | .getResult _ | .deinit => up = true
  | .announced _ | .announcementLeaves _ | .replied _ | .replyLeaves _ | .lost _ | .stop => True

instance Proper.decidable (up : Bool) : (op : Op) → Decidable (Proper up op)
  | .init outcome => inferInstanceAs (Decidable (up = false ∧ outcome ≠ .failed))
  | .reinit _ _ outcome => inferInstanceAs (Decidable (up = true ∧ outcome ≠ .failed))
  | .update _ _ | .poll _ _ _ | .sendFile _ _ _ _ _ _ | .recvFile _ _ _ _ _ |
    .createDeviceList _ _ _ | .getResult _ | .deinit => inferInstanceAs (Decidable (up = true))
  | .announced _ | .announcementLeaves _ | .replied _ | .replyLeaves _ | .lost _ | .stop =>
    inferInstanceAs (Decidable True)

/-- The names of a transfer that would start do not fit `message[1024]`, or
`dds_transport_deinit` is given `NULL`. -/
def Fatal (s : Server) : Op → Prop
  | .sendFile _ callbackname filename _ _ _ | .recvFile _ callbackname filename _ _ =>
    s.status = .running ∧ s.files.gFileTransferStat.status = 0 ∧
      1024 < callbackname.length + filename.length + 2
  | .deinit => s.transport = .null
  | _ => False

structure Sane (up : Bool) (sh : Shadow) : Prop where
  opened : up = true → sh.status = .running ∨ sh.stat.status = 1 → sh.transport = .opened
  notFreed : up = true → sh.transport ≠ .freed
  status : sh.stat.status = 0 ∨ sh.stat.status = 1
  idList : sh.stat.status = 1 →
    ∃ idList, sh.stat.idList = some idList ∧ sh.stat.idNum = idList.length

theorem sane_initial : Sane false shadowInitial where
  opened h := absurd h Bool.false_ne_true
  notFreed h := absurd h Bool.false_ne_true
  status := .inl rfl
  idList h := absurd h (by decide)

theorem Sane.present {up : Bool} {sh : Shadow} (h : Sane up sh) (hup : up = true)
    (hnull : sh.transport ≠ .null) : sh.transport = .opened := by
  cases htransport : sh.transport with
  | null => exact absurd htransport hnull
  | opened => rfl
  | freed => exact absurd htransport (h.notFreed hup)

variable {replyTimeout : ℤ} {up : Bool} {sh sh' : Shadow} {op : Op}

structure Kept (sh sh' : Shadow) : Prop where
  status : sh'.status = sh.status
  transport : sh'.transport = sh.transport
  stat : sh'.stat = sh.stat

theorem Sane.kept (h : Sane up sh) (hk : Kept sh sh') : Sane up sh' where
  opened hup := by
    rw [hk.status, hk.transport, hk.stat]
    exact h.opened hup
  notFreed hup := by
    rw [hk.transport]
    exact h.notFreed hup
  status := by
    rw [hk.stat]
    exact h.status
  idList := by
    rw [hk.stat]
    exact h.idList

theorem shadowUpdate_kept (hopen : sh.transport = .opened) (fails : Option ℕ) :
    ∃ sh', shadowUpdate fails sh = some sh' ∧ Kept sh sh' := by
  have htotal : (FailingDrains.tryRecv shadowAdd sh.announcements fails sh.devices).isSome :=
    FailingDrains.tryRecv_total (fun _ _ => rfl) _ _ _
  obtain ⟨r, hr⟩ := Option.isSome_iff_exists.mp htotal
  refine ⟨{ sh with announcements := r.1, devices := r.2.1 }, ?_, rfl, rfl, rfl⟩
  rw [shadowUpdate, if_neg (not_not.mpr hopen), hr]
  rfl

structure Polled (replyTimeout now : ℤ) (sh sh' : Shadow) : Prop where
  status : sh'.status = sh.status
  transport : sh'.transport = sh.transport
  ends : sh'.stat.status = 0 ∨ now - sh.stat.startTime ≤ replyTimeout ∧ sh'.stat.status = 1 ∧
    sh'.stat.startTime = sh.stat.startTime ∧ sh'.stat.idList = sh.stat.idList ∧
    sh'.stat.idNum = sh.stat.idNum

theorem shadowReply_keeps (mallocOk : ℕ → ℕ → Bool) (stat : FileTransferStat)
    (msg : DataInfoReply) (acc : (FileTransferStat × List Device) × ℕ)
    (h : ∃ n, acc.1.1 = { stat with recvNum := n }) :
    ∃ r, shadowReply mallocOk msg acc = some r ∧ ∃ n, r.1.1.1 = { stat with recvNum := n } := by
  obtain ⟨⟨stat', ds⟩, k⟩ := acc
  obtain ⟨n, rfl⟩ := h
  rw [shadowReply]
  split
  · exact ⟨_, rfl, n, rfl⟩
  · exact ⟨_, rfl, n + 1, rfl⟩

theorem shadowPoll_polled (h : Sane up sh) (hrun : sh.stat.status = 1) (now : ℤ)
    (mallocOk : ℕ → ℕ → Bool) (fails : ℕ → Option ℕ) :
    ∃ sh', shadowPoll replyTimeout now mallocOk fails sh = some sh' ∧
      Polled replyTimeout now sh sh' := by
  obtain ⟨idList, hlist, hlen⟩ := h.idList hrun
  obtain ⟨⟨reader, ⟨stat, ds⟩, k⟩, hdrain, n, hstat⟩ := drainReplies_keeps
    (shadowReply_keeps mallocOk sh.stat) sh.stat.randomSeq fails (sh.stat.idNum - sh.stat.recvNum)
    sh.reader (b := ((sh.stat, sh.devices), 0)) ⟨sh.stat.recvNum, rfl⟩
  obtain rfl : stat = { sh.stat with recvNum := n } := hstat
  have hread : ∀ status, readIdList { sh.stat with status, recvNum := n } =
      some (idList.take sh.stat.idNum) := by
    intro status
    simp only [readIdList, hlist, Option.bind_eq_bind, Option.bind_some, if_pos hlen.le]
    split
    · next hzero => rw [hzero, List.take_zero]
    · rfl
  have hcount : ∃ status, checkCount { sh.stat with recvNum := n } =
      { sh.stat with status, recvNum := n } ∧ (status = 0 ∨ status = 1) := by
    rw [checkCount]
    split
    · exact ⟨0, rfl, .inl rfl⟩
    · exact ⟨1, by rw [← hrun], .inr rfl⟩
  obtain ⟨status, hcount, hstatus⟩ := hcount
  simp only [shadowPoll, if_pos hrun, hdrain, Option.bind_eq_bind, Option.bind_some, hcount,
    shadowDeadline]
  split
  · rw [hread]
    exact ⟨_, rfl, rfl, rfl, .inl rfl⟩
  · next hearly =>
    refine ⟨_, rfl, rfl, rfl, ?_⟩
    rcases hstatus with rfl | rfl
    · exact .inl rfl
    · exact .inr ⟨not_lt.mp hearly, rfl, rfl, rfl, rfl⟩

theorem shadowStart_eq_none (req : Option DataInfoRequest) (now : ℤ) :
    shadowStart req now sh = none ↔
      sh.status = .running ∧ sh.stat.status = 0 ∧ (req = none ∨ sh.transport ≠ .opened) := by
  rw [shadowStart]
  split
  · next hrefused =>
    constructor
    · rintro ⟨⟩
    · rintro ⟨hrun, hidle, -⟩
      exact absurd hrefused (by simp [hrun, hidle])
  · next haccepted =>
    obtain ⟨hrun, hidle⟩ : sh.status = .running ∧ sh.stat.status = 0 := by simpa using haccepted
    cases req with
    | none => simp [hrun, hidle]
    | some req => simp [hrun, hidle]

theorem shadowStart_some {req : Option DataInfoRequest} {now : ℤ}
    (h : shadowStart req now sh = some sh') : sh' = sh ∨
      sh.status = .running ∧ sh'.status = sh.status ∧ sh.transport = .opened ∧
        sh'.transport = .opened ∧ sh.stat.status = 0 ∧ sh'.stat.status = 1 ∧
        ∃ idList, sh'.stat.idList = some idList ∧ sh'.stat.idNum = idList.length := by
  rw [shadowStart] at h
  split at h
  · exact .inl (Option.some.inj h).symm
  · next haccepted =>
    obtain ⟨hrun, hidle⟩ : sh.status = .running ∧ sh.stat.status = 0 := by simpa using haccepted
    obtain ⟨req, -, h⟩ := Option.bind_eq_some_iff.mp h
    split at h
    · cases h
    · next hopen =>
      obtain rfl := Option.some.inj h
      have hopen := not_not.mp hopen
      exact .inr ⟨hrun, rfl, hopen, hopen, hidle, rfl, req.idList, rfl, rfl⟩

theorem transferMessage_eq_none (callbackname filename : Text) :
    transferMessage callbackname filename = none ↔
      1024 < callbackname.length + filename.length + 2 := by
  rw [transferMessage_eq]
  split
  · next hfit => simp [Nat.not_lt.mpr hfit]
  · next hlong => simp [Nat.not_le.mp hlong]

theorem shadowCloseOld_some (h : sh.transport ≠ .freed) : ∃ sh', shadowCloseOld sh = some sh' ∧
    sh'.status = sh.status ∧ sh'.stat = sh.stat := by
  rw [shadowCloseOld]
  split
  · exact ⟨sh, rfl, rfl, rfl⟩
  · next hnull =>
    have hopen : sh.transport = .opened := by
      cases ht : sh.transport with
      | null => exact absurd ht hnull
      | opened => rfl
      | freed => exact absurd ht h
    exact ⟨_, if_neg (not_not.mpr hopen), rfl, rfl⟩

/-- The end of a round of the receive thread: nothing to do, a re-creation that fails, or one that
brings the server back. -/
inductive Reinit (found configOk : Bool) (outcome : InitOutcome) (sh : Shadow) : Shadow → Prop
  | skipped : sh.status = .running ∨ sh.stat.status ≠ 0 ∨ found = false →
      Reinit found configOk outcome sh sh
  | failed {sh' : Shadow} : sh.status ≠ .running → sh.stat.status = 0 →
      configOk = false ∨ outcome ≠ .created → sh'.status = sh.status → sh'.transport = .null →
      sh'.stat = sh.stat → Reinit found configOk outcome sh sh'
  | created {sh' : Shadow} : sh.status ≠ .running → sh.stat.status = 0 → sh'.status = .running →
      sh'.transport = .opened → sh'.stat.status = 0 → Reinit found configOk outcome sh sh'

theorem shadowReinit_some (h : sh.transport ≠ .freed) (found configOk : Bool)
    {outcome : InitOutcome} (hclean : outcome ≠ .failed) :
    ∃ sh', shadowReinit found configOk outcome sh = some sh' ∧
      Reinit found configOk outcome sh sh' := by
  rw [shadowReinit]
  split
  · next hskip => exact ⟨sh, rfl, .skipped (by simpa using hskip)⟩
  · next hgo =>
    obtain ⟨hstop, hidle, -⟩ : ¬ sh.status = .running ∧ sh.stat.status = 0 ∧ found = true := by
      simpa using hgo
    obtain ⟨sh₁, hclose, hstatus, hstat⟩ := shadowCloseOld_some h
    simp only [hclose, Option.bind_eq_bind, Option.bind_some]
    split
    · next hfail =>
      refine ⟨_, rfl, .failed hstop hidle ?_ hstatus rfl hstat⟩
      cases outcome with
      | created => exact hfail.imp (by simp) (by decide)
      | noMemory => exact .inr (by decide)
      | failed => exact absurd rfl hclean
    · next hmade =>
      refine ⟨_, rfl, .created hstop hidle rfl ?_ rfl⟩
      cases outcome with
      | created => rfl
      | noMemory => exact absurd (.inr rfl) hmade
      | failed => exact absurd rfl hclean

def ordinary : Op → Bool
  | .stop | .reinit _ _ _ | .init _ | .deinit => false
  | _ => true

theorem upBehind_ordinary (h : ordinary op = true) (transport : Transport) :
    upBehind up transport op = up := by
  cases op <;> first | rfl | cases h

def isPoll : Op → Bool
  | .poll _ _ _ => true
  | _ => false

inductive Effect (replyTimeout : ℤ) (sh : Shadow) : Op → Shadow → Prop
  | kept {op : Op} {sh' : Shadow} : ordinary op = true → Kept sh sh' →
      (isPoll op = true → sh.stat.status ≠ 1 ∨ sh.transport = .null) →
      Effect replyTimeout sh op sh'
  | stopped : Effect replyTimeout sh .stop { sh with status := .stop }
  | polled {now : ℤ} {mallocOk fails} {sh' : Shadow} : sh.transport = .opened →
      sh.stat.status = 1 → Polled replyTimeout now sh sh' →
      Effect replyTimeout sh (.poll now mallocOk fails) sh'
  | started {op : Op} {sh' : Shadow} {idList : List ℕ} : ordinary op = true →
      sh.status = .running → sh'.status = sh.status → sh'.transport = .opened →
      sh.stat.status = 0 → sh'.stat.status = 1 → sh'.stat.idList = some idList →
      sh'.stat.idNum = idList.length → Effect replyTimeout sh op sh'
  | reinit {found configOk outcome} {sh' : Shadow} : Reinit found configOk outcome sh sh' →
      Effect replyTimeout sh (.reinit found configOk outcome) sh'
  | inited {outcome} {sh' : Shadow} : sh'.stat.status = 0 →
      sh'.transport = .null ∨ sh'.transport = .opened ∧ sh'.status = .running →
      Effect replyTimeout sh (.init outcome) sh'
  | closed {sh' : Shadow} : sh'.stat = sh.stat → Effect replyTimeout sh .deinit sh'

theorem Effect.quiet (hordinary : ordinary op = true) (hpoll : isPoll op = false)
    (hkept : Kept sh sh') : Effect replyTimeout sh op sh' :=
  .kept hordinary hkept fun h => absurd (hpoll.symm.trans h) Bool.false_ne_true

variable {s : Server}

theorem start_cases (hk : Knows none s sh) (h : Sane true sh) (callbackname filename : Text)
    (request : Text → DataInfoRequest) (now : ℤ) {op : Op} (hordinary : ordinary op = true)
    (hpoll : isPoll op = false) :
    let fatal := s.status = .running ∧ s.files.gFileTransferStat.status = 0 ∧
      1024 < callbackname.length + filename.length + 2
    let start := shadowStart ((transferMessage callbackname filename).map request) now sh
    fatal ∧ start = none ∨
      ¬ fatal ∧ ∃ sh', start = some sh' ∧ Effect replyTimeout sh op sh' := by
  intro fatal start
  have hfatal : fatal ↔ start = none := by
    rw [shadowStart_eq_none, Option.map_eq_none_iff, transferMessage_eq_none]
    simp only [fatal, hk.status, hk.stat]
    refine and_congr_right fun hrun => and_congr_right fun _ => ?_
    simp [h.opened rfl (.inl hrun)]
  cases hstart : start with
  | none => exact .inl ⟨hfatal.mpr hstart, rfl⟩
  | some sh' =>
    refine .inr ⟨fun hf => ?_, sh', rfl, ?_⟩
    · cases (hfatal.mp hf).symm.trans hstart
    · rcases shadowStart_some hstart with rfl | ⟨hrun, hsame, -, hopen, hidle, hstat, _, hlist, hn⟩
      · exact .quiet hordinary hpoll ⟨rfl, rfl, rfl⟩
      · exact .started hordinary hrun hsame hopen hidle hstat hlist hn

/-- A proper step faults where it is fatal, and nowhere else. -/
theorem next_cases (replyTimeout : ℤ) (hk : Knows none s sh) (h : Sane up sh)
    (hproper : Proper up op) :
    Fatal s op ∧ next replyTimeout sh op = none ∨
      ¬ Fatal s op ∧ ∃ sh', next replyTimeout sh op = some sh' ∧
        Effect replyTimeout sh op sh' := by
  cases op with
  | announced | announcementLeaves | replied | replyLeaves | lost | getResult =>
    exact .inr ⟨id, _, rfl, .quiet rfl rfl ⟨rfl, rfl, rfl⟩⟩
  | stop => exact .inr ⟨id, _, rfl, .stopped⟩
  | update malloc fails =>
    obtain rfl : up = true := hproper
    refine .inr ⟨id, ?_⟩
    rw [next]
    split
    · exact ⟨sh, rfl, .quiet rfl rfl ⟨rfl, rfl, rfl⟩⟩
    · next hnull =>
      obtain ⟨sh', hnext, hkept⟩ := shadowUpdate_kept (h.present rfl hnull) fails
      exact ⟨sh', hnext, .quiet rfl rfl hkept⟩
  | poll now mallocOk fails =>
    obtain rfl : up = true := hproper
    refine .inr ⟨id, ?_⟩
    rw [next]
    cases htransport : sh.transport with
    | null => exact ⟨sh, rfl, .kept rfl ⟨rfl, rfl, rfl⟩ fun _ => .inr htransport⟩
    | freed => exact absurd htransport (h.notFreed rfl)
    | opened =>
      by_cases hrun : sh.stat.status = 1
      · obtain ⟨sh', hnext, hpolled⟩ := shadowPoll_polled h hrun now mallocOk fails
        exact ⟨sh', hnext, .polled htransport hrun hpolled⟩
      · exact ⟨sh, if_neg hrun, .kept rfl ⟨rfl, rfl, rfl⟩ fun _ => .inl hrun⟩
  | sendFile idList callbackname filename pFile randomSeq now =>
    obtain rfl : up = true := hproper
    exact start_cases hk h callbackname filename _ now rfl rfl
  | recvFile id callbackname filename randomSeq now =>
    obtain rfl : up = true := hproper
    exact start_cases hk h callbackname filename _ now rfl rfl
  | createDeviceList malloc fails mallocOk =>
    obtain rfl : up = true := hproper
    refine .inr ⟨id, ?_⟩
    rw [next]
    split
    · exact ⟨sh, rfl, .quiet rfl rfl ⟨rfl, rfl, rfl⟩⟩
    · next hrun =>
      obtain ⟨sh', hnext, hkept⟩ :=
        shadowUpdate_kept (h.opened rfl (.inl (not_not.mp hrun))) fails
      exact ⟨sh', hnext, .quiet rfl rfl hkept⟩
  | reinit found configOk outcome =>
    obtain ⟨rfl, hclean⟩ : up = true ∧ outcome ≠ .failed := hproper
    obtain ⟨sh', hnext, heffect⟩ := shadowReinit_some (h.notFreed rfl) found configOk hclean
    exact .inr ⟨id, sh', hnext, .reinit heffect⟩
  | init outcome =>
    refine .inr ⟨id, _, rfl, ?_⟩
    cases outcome with
    | created => exact .inited rfl (.inr ⟨rfl, rfl⟩)
    | noMemory => exact .inited rfl (.inl rfl)
    | failed => exact absurd rfl hproper.2
  | deinit =>
    obtain rfl : up = true := hproper
    rw [next, shadowClose]
    by_cases hnull : sh.transport = .null
    · refine .inl ⟨hk.transport.trans hnull, if_pos ?_⟩
      rw [hnull]
      decide
    · have hopen := h.present rfl hnull
      refine .inr ⟨fun hfatal => hnull (hk.transport.symm.trans hfatal), _,
        if_neg (not_not.mpr hopen), .closed rfl⟩

theorem sane_next (h : Sane up sh) (hproper : Proper up op)
    (heffect : Effect replyTimeout sh op sh') : Sane (upBehind up sh'.transport op) sh' := by
  cases heffect with
  | kept hordinary hkept hpoll =>
    rw [upBehind_ordinary hordinary]
    exact h.kept hkept
  | stopped =>
    refine ⟨fun hup hor => h.opened hup (.inr ?_), h.notFreed, h.status, h.idList⟩
    exact hor.resolve_left (by simp)
  | polled hopen hrun hpolled =>
    refine ⟨fun _ _ => hpolled.transport.trans hopen, fun _ => ?_, ?_, ?_⟩
    · rw [hpolled.transport, hopen]
      decide
    · exact hpolled.ends.imp_right fun hends => hends.2.1
    · intro hrun'
      rcases hpolled.ends with hidle | ⟨-, -, -, hlist, hn⟩
      · exact absurd (hidle.symm.trans hrun') zero_ne_one
      · rw [hlist, hn]
        exact h.idList hrun
  | started hordinary hrun hsame hopen hidle hstat hlist hn =>
    rw [upBehind_ordinary hordinary]
    refine ⟨fun _ _ => hopen, fun _ => ?_, .inr hstat, fun _ => ⟨_, hlist, hn⟩⟩
    rw [hopen]
    decide
  | reinit hreinit =>
    cases hreinit with
    | skipped => exact h
    | failed hstop hidle _ hsame hnull hstat =>
      refine ⟨fun _ hor => ?_, fun _ => by rw [hnull]; decide, ?_, ?_⟩
      · rw [hsame, hstat, hidle] at hor
        exact absurd (hor.resolve_left hstop) zero_ne_one
      · exact .inl (hstat ▸ hidle)
      · intro hrun
        exact absurd ((hstat ▸ hidle).symm.trans hrun) zero_ne_one
    | created _ _ _ hopen hidle =>
      refine ⟨fun _ _ => hopen, fun _ => by rw [hopen]; decide, .inl hidle, fun hrun => ?_⟩
      exact absurd (hidle.symm.trans hrun) zero_ne_one
  | @inited outcome _ hidle hmade =>
    have hopen : upBehind up sh'.transport (.init outcome) = true → sh'.transport = .opened :=
      fun hup => (hmade.resolve_left (bne_iff_ne.mp hup)).1
    refine ⟨fun hup _ => hopen hup, fun hup => ?_, .inl hidle, fun hrun => ?_⟩
    · rw [hopen hup]
      decide
    · exact absurd (hidle.symm.trans hrun) zero_ne_one
  | closed hstat =>
    refine ⟨fun h => absurd h Bool.false_ne_true, fun h => absurd h Bool.false_ne_true, ?_, ?_⟩
    · rw [hstat]
      exact h.status
    · rw [hstat]
      exact h.idList

structure Tracks (s : Session) (sh : Shadow) : Prop where
  knows : Knows none s.server sh
  sane : Sane s.up sh

theorem tracks_initial : Tracks initial shadowInitial := ⟨knows_initial none, sane_initial⟩

theorem step_cases (replyTimeout : ℤ) {s : Session} {e : Event} (h : Tracks s sh)
    (hproper : Proper s.up e.op) :
    Fatal s.server e.op ∧ step replyTimeout s e = none ∨
      ¬ Fatal s.server e.op ∧ ∃ s' sh', step replyTimeout s e = some s' ∧ Tracks s' sh' ∧
        s'.up = upBehind s.up sh'.transport e.op ∧ Effect replyTimeout sh e.op sh' := by
  have hfits : Fits none e.memory := fun c hc => absurd hc (Option.not_mem_none c)
  have hfollows := follows replyTimeout none e.memory s.server sh e.op hfits h.knows
  rcases next_cases replyTimeout h.knows h.sane hproper with
    ⟨hfatal, hnext⟩ | ⟨hsafe, sh', hnext, heffect⟩
  · rw [hnext] at hfollows
    rcases rel_cases hfollows with ⟨hstep, -⟩ | ⟨r, u, -, hu, -⟩
    · exact .inl ⟨hfatal, by rw [step, hstep, Option.map_none]⟩
    · cases hu
  · rw [hnext] at hfollows
    rcases rel_cases hfollows with ⟨-, hnone⟩ | ⟨r, u, hstep, hu, hknows, -⟩
    · cases hnone
    · cases hu
      refine .inr ⟨hsafe, ⟨r.1, upBehind s.up r.1.transport e.op⟩, sh', ?_, ⟨hknows, ?_⟩, ?_,
        heffect⟩
      · rw [step, hstep, Option.map_some]
      · rw [hknows.transport]
        exact sane_next h.sane hproper heffect
      · rw [hknows.transport]

def Intended (s : Session) (e : Event) : Prop := Proper s.up e.op

instance (s : Session) (e : Event) : Decidable (Intended s e) :=
  inferInstanceAs (Decidable (Proper s.up e.op))

theorem tracks_step {s s' : Session} {e : Event} (h : Tracks s sh) (hintended : Intended s e)
    (hstep : step replyTimeout s e = some s') :
    ∃ sh', Tracks s' sh' ∧ s'.up = upBehind s.up sh'.transport e.op ∧
      Effect replyTimeout sh e.op sh' := by
  rcases step_cases replyTimeout h hintended with
    ⟨-, hnone⟩ | ⟨-, t, sh', ht, htracks, hup, heffect⟩
  · cases hnone.symm.trans hstep
  · obtain rfl := Option.some.inj (ht.symm.trans hstep)
    exact ⟨sh', htracks, hup, heffect⟩

theorem tracks_execution {s : Session} (h : Execution (step replyTimeout) Intended initial s) :
    ∃ sh, Tracks s sh := by
  refine h.invariant (I := fun s => ∃ sh, Tracks s sh) ⟨_, tracks_initial⟩ ?_
  rintro s e s' ⟨sh, htracks⟩ hintended hstep
  obtain ⟨sh', htracks', -, -⟩ := tracks_step htracks hintended hstep
  exact ⟨sh', htracks'⟩

/-- No run of a server that is used as intended faults but in two places: a transfer starts whose
names do not fit the message, or the server is taken down when its transport could not be created
again. While it is up and running or transfers a file its transport is open. -/
theorem faults_iff {s : Session} {e : Event}
    (h : Execution (step replyTimeout) Intended initial s) (hintended : Intended s e) :
    (step replyTimeout s e = none ↔ Fatal s.server e.op) ∧
      (s.up = true → s.server.status = .running ∨ s.server.files.gFileTransferStat.status = 1 →
        s.server.transport = .opened) := by
  obtain ⟨sh, htracks⟩ := tracks_execution h
  constructor
  · rcases step_cases replyTimeout htracks hintended with
      ⟨hfatal, hnone⟩ | ⟨hsafe, s', -, hsome, -⟩
    · exact iff_of_true hnone hfatal
    · refine iff_of_false ?_ hsafe
      rw [hsome]
      exact Option.some_ne_none s'
  · rw [htracks.knows.status, htracks.knows.transport, htracks.knows.stat]
    exact htracks.sane.opened

/-- Device 5 is sent a file and answers. Then the interface changes, the transport cannot be
created on the new one, and the server is taken down. -/
def changedInterface : List Event :=
  [.init .created, .announced ⟨true, 9, ⟨5, [], [], [], [], [], []⟩⟩, .update Malloc.bump none,
    .sendFile [5] ['c'] ['f'] [1, 2] 7 100, .stop, .reinit true true .created,
    .replied ⟨true, 5, .importFile, 7, ['0'], []⟩, .poll 101 (fun _ _ => true) fun _ => none,
    .reinit true false .created].map fun op => ⟨fun _ => zeros, op⟩

theorem faults_iff_changed_interface : ∃ s,
    runEvents (guarded (step 10) Intended) initial changedInterface = some s ∧
      step 10 s ⟨fun _ => zeros, .deinit⟩ = none := by
  obtain ⟨s, hs, hexec, hup, hnull⟩ := exists_execution (step 10) Intended initial
    (fun s => s.up = true ∧ s.server.transport = .null) changedInterface (by decide)
  exact ⟨s, hs, (faults_iff (e := ⟨fun _ => zeros, .deinit⟩) hexec hup).1.mpr hnull⟩

end ServerSafety
