import RmtLibrary.OutstandingRequests

/-! # The statements of a call keep the requests apart

Most statements touch nothing the invariant asks about. Six do: the assignment of the type, the
draw, the instance, and three of the assignments to the transfer record. -/
namespace OutstandingRequests

open ConcurrentCalls

variable {ρ : Type}

/-- The process has the same transfer record and poll, and no more replies. -/
structure SameRecord (P P' : Process ρ) : Prop where
  status : P'.stat.status = P.stat.status
  statSeq : P'.stat.randomSeq = P.stat.randomSeq
  statType : P'.stat.type = P.stat.type
  poll : P'.poll = P.poll
  inFlight : P'.inFlight = P.inFlight
  reader : ∀ r ∈ P'.reader, r ∈ P.reader
  owner : P'.owner = P.owner
  running : P'.running = P.running

structure SameView (P P' : Process ρ) : Prop where
  record : SameRecord P P'
  type : ∀ fn, (P'.static fn).type = (P.static fn).type
  seq : ∀ fn, (P'.static fn).randomSeq = (P.static fn).randomSeq

theorem SameRecord.refl (P : Process ρ) : SameRecord P P := by
  constructor <;> first | rfl | exact fun _ hr => hr

theorem SameView.refl (P : Process ρ) : SameView P P :=
  ⟨.refl P, fun _ => rfl, fun _ => rfl⟩

theorem sameRecord_write (P : Process ρ) (fn : Fn) (req : Idl.DataInfoRequest) (rand : ρ) :
    SameRecord P { P.write fn req with rand } := by
  constructor <;> first | rfl | exact fun _ hr => hr

theorem sameView_write {P : Process ρ} {fn : Fn} {req : Idl.DataInfoRequest}
    (htype : req.type = (P.static fn).type) (hseq : req.randomSeq = (P.static fn).randomSeq) :
    SameView P (P.write fn req) := by
  refine ⟨sameRecord_write P fn req P.rand, ?_, ?_⟩ <;> intro fn' <;> by_cases hfn : fn' = fn
  · subst hfn
    rw [P.write_same, htype]
  · rw [P.write_other req hfn]
  · subst hfn
    rw [P.write_same, hseq]
  · rw [P.write_other req hfn]

theorem sameView_local (P : Process ρ) (stat : FileTransfer.FileTransferStat) (rand : ρ)
    (hstatus : stat.status = P.stat.status) (hseq : stat.randomSeq = P.stat.randomSeq)
    (htype : stat.type = P.stat.type) : SameView P { P with stat, rand } := by
  refine ⟨⟨hstatus, hseq, htype, ?_, ?_, ?_, ?_, ?_⟩, ?_, ?_⟩ <;>
    first | rfl | exact fun _ => rfl | exact fun _ hr => hr

theorem SameRecord.has {P P' : Process ρ} (h : SameRecord P P') {r : Reply} (hr : Has P' r) :
    Has P r := by
  rcases hr with hr | hr | ⟨key, i, hr⟩
  · exact Or.inl (h.inFlight ▸ hr)
  · exact Or.inr (Or.inl (h.reader r hr))
  · exact Or.inr (Or.inr ⟨key, i, h.poll.symm.trans hr⟩)

theorem CallInv.keep {P P' : Process ρ} {i : ℕ} {c : Call} (hc : CallInv P i c)
    (h : SameRecord P P') (htype : typed c.pc = true →
      (P.static c.args.fn).type = c.args.fn.type → (P'.static c.args.fn).type = c.args.fn.type)
    (hseq : needsStatic c.pc = true →
      (P'.static c.args.fn).randomSeq = (P.static c.args.fn).randomSeq) : CallInv P' i c := by
  refine ⟨hc.undrawn, ?_, ?_, hc.key, hc.taken, ?_, ?_⟩
  · intro hpc
    exact htype hpc (hc.type hpc)
  · intro hpc
    rw [hseq hpc]
    exact hc.static hpc
  · rw [h.owner]
    exact hc.filling
  · rw [h.statSeq, h.poll]
    exact hc.unpublished

theorem CallInv.sameView {P P' : Process ρ} {i : ℕ} {c : Call} (hc : CallInv P i c)
    (h : SameView P P') : CallInv P' i c :=
  hc.keep h.record (fun _ ht => (h.type _).trans ht) fun _ => h.seq _

theorem Filled.keep {P P' : Process ρ} {c : Call} (hf : Filled P c) (h : SameRecord P P') :
    Filled P' c := by
  refine ⟨hf.begun, ?_, ?_⟩
  · rw [h.statSeq]
    exact hf.seq
  · rw [h.statType]
    exact hf.type

/-- A step from `pc` to `pc'` for which the invariant asks nothing new. -/
structure Quiet (pc pc' : Pc) : Prop where
  active : pc ≠ .returned
  undrawn : beforeDraw pc' = true → beforeDraw pc = true
  type : typed pc' = true → typed pc = true
  static : needsStatic pc' = true → needsStatic pc = true
  key : keyed pc' = true → keyed pc = true
  owner : filling pc' = true → filling pc = true
  begun : filling pc = true → filling pc' = true ∨ pc' = .returned
  statSeq : unsequenced pc' = false → unsequenced pc = false
  statType : midway pc' = false → midway pc = false
  publish : unpublished pc' = true → unpublished pc = true

theorem CallInv.quiet {P : Process ρ} {i : ℕ} {c c' : Call} (h : CallInv P i c)
    (hq : Quiet c.pc c'.pc) (hargs : c'.args = c.args) (hdrawn : c'.drawn = c.drawn)
    (hkey : c'.instanceKey = c.instanceKey)
    (htaken : ∀ r, c'.pc = .received r → r.reply.randomSeq = c.instanceKey) :
    CallInv P i c' := by
  constructor
  · intro hpc
    rw [hdrawn]
    exact h.undrawn (hq.undrawn hpc)
  · intro hpc
    rw [hargs]
    exact h.type (hq.type hpc)
  · intro hpc
    rw [hargs, hdrawn]
    exact h.static (hq.static hpc)
  · intro hpc
    rw [hdrawn, hkey]
    exact h.key (hq.key hpc)
  · intro r hpc
    rw [hkey]
    exact htaken r hpc
  · intro hpc
    exact h.filling (hq.owner hpc)
  · intro hpc
    rw [hdrawn]
    exact h.unpublished (hq.publish hpc)

theorem Filled.quiet {P : Process ρ} {c c' : Call} (h : Filled P c) (hq : Quiet c.pc c'.pc)
    (hargs : c'.args = c.args) (hdrawn : c'.drawn = c.drawn) : Filled P c' := by
  constructor
  · exact hq.begun (h.begun.resolve_right hq.active)
  · intro hpc
    rw [hdrawn]
    exact h.seq (hq.statSeq hpc)
  · intro hpc
    rw [hargs]
    exact h.type (hq.statType hpc)

theorem ProcessInv.keep {calls : List Call} {p : ℕ} {P P' : Process ρ}
    (h : ProcessInv calls p P) (hrec : SameRecord P P') {i : ℕ} {c : Call}
    (hc : calls[i]? = some c) (c' : Call) (hproc : c'.process = c.process)
    (hself : Filled P c → Filled P c') : ProcessInv (calls.set i c') p P' := by
  constructor
  · rw [hrec.running, hrec.owner]
    exact h.running
  · rw [hrec.status, hrec.running]
    exact h.idle
  · rw [hrec.status, hrec.poll, hrec.owner]
    exact h.polling
  · rw [hrec.owner]
    intro j hj
    obtain ⟨d, hd, hdp, hfilled⟩ := h.record j hj
    obtain ⟨d', hd', ⟨rfl, rfl, rfl⟩ | ⟨-, rfl⟩⟩ := exists_set hc hd c'
    · exact ⟨d', hd', hproc.trans hdp, (hself hfilled).keep hrec⟩
    · exact ⟨d', hd', hdp, hfilled.keep hrec⟩
  · rw [hrec.poll]
    exact h.taken

theorem Filled.elim {P : Process ρ} {c : Call} (h : Filled P c) (hpc : filling c.pc = false)
    (hactive : c.pc ≠ .returned) {p : Prop} : p := by
  rcases h.begun with hf | hf
  · rw [hpc] at hf
    cases hf
  · exact absurd hf hactive

theorem Invariant.fresh_of_drawn {s : System ρ} (h : Invariant s) {i : ℕ} {c : Call}
    (hc : s.calls[i]? = some c) (hactive : c.pc ≠ .returned) :
    ∀ (j : ℕ) (d : Call) (randomSeq : ℕ), s.calls[j]? = some d → j ≠ i →
      d.drawn = some randomSeq → c.drawn = some randomSeq → d.args.fn ≠ c.args.fn ∧
        ¬ (d.process = c.process ∧ Outstanding (s.process c.process) j d) := by
  intro j d randomSeq hd hij hdd hcd
  constructor
  · intro hfn
    exact hij (h.distinct j i d c randomSeq hd hc hdd hcd hfn)
  · rintro ⟨hp, hout⟩
    apply hij
    apply h.apart j i d c randomSeq hd hc hdd hcd hp
    · rw [hp]
      exact hout
    · exact ⟨by simp [hcd], Or.inl hactive⟩

theorem Invariant.quiet {s : System ρ} (h : Invariant s) {i : ℕ} {c c' : Call}
    (hc : s.calls[i]? = some c) {P : Process ρ} (hview : SameView (s.process c.process) P)
    (hq : Quiet c.pc c'.pc) (hproc : c'.process = c.process) (hargs : c'.args = c.args)
    (hdrawn : c'.drawn = c.drawn) (hkey : c'.instanceKey = c.instanceKey)
    (htaken : ∀ r, c'.pc = .received r → r.reply.randomSeq = c.instanceKey ∧
      Sourced s.calls r) : Moves s i c P c' := by
  constructor
  · exact hproc
  · exact hargs
  · intro randomSeq hd
    rwa [hdrawn]
  · exact hq.active
  · rw [hdrawn]
    exact h.fresh_of_drawn hc hq.active
  · intro j hj
    rw [hview.record.running] at hj
    exact Or.inl hj
  · apply CallInv.sameView _ hview
    exact (h.call i c hc).quiet hq hargs hdrawn hkey fun r hr => (htaken r hr).1
  · intro j d hd _ hp
    exact (h.call_in hd hp).sameView hview
  · apply (h.process c.process).keep hview.record hc c' hproc
    intro hf
    exact hf.quiet hq hargs hdrawn
  · intro r hr
    exact hview.record.has hr
  · intro r hr
    exact (htaken r hr).2

theorem Invariant.goto {s : System ρ} (h : Invariant s) {i : ℕ} {c : Call}
    (hc : s.calls[i]? = some c) {pc pc' : Pc} (hpc : c.pc = pc) (hq : Quiet pc pc')
    (hr : ∀ r, pc' ≠ .received r) {P : Process ρ} (hview : SameView (s.process c.process) P)
    {message : CString.Text} {num : ℕ} {startTime nowTime : ℤ} :
    Moves s i c P { c with pc := pc', message, num, startTime, nowTime } := by
  subst hpc
  apply h.quiet hc hview
  · exact hq
  · rfl
  · rfl
  · rfl
  · rfl
  · intro r he
    exact absurd he (hr r)

theorem Invariant.moveOn {s : System ρ} (h : Invariant s) {i : ℕ} {c : Call}
    (hc : s.calls[i]? = some c) (hactive : c.pc ≠ .returned) {P : Process ρ} {pc : Pc} {key : ℕ}
    (hrun : ∀ j ∈ P.running, j ∈ (s.process c.process).running ∨ j = i)
    (hcall : CallInv P i { c with pc, instanceKey := key })
    (hothers : ∀ (j : ℕ) (d : Call), s.calls[j]? = some d → j ≠ i → d.process = c.process →
      CallInv P j d)
    (hrecord : ProcessInv (s.calls.set i { c with pc, instanceKey := key }) c.process P)
    (hreplies : ∀ r, Has P r → Has (s.process c.process) r) (hr : ∀ r, pc ≠ .received r) :
    Moves s i c P { c with pc, instanceKey := key } := by
  refine ⟨rfl, rfl, fun _ hd => hd, hactive, ?_, hrun, hcall, hothers, hrecord, hreplies, ?_⟩
  · intro j d randomSeq hd hij hdd hcd
    exact h.fresh_of_drawn hc hactive j d randomSeq hd hij hdd hcd
  · intro r he
    exact absurd he (hr r)

theorem Invariant.typeMoves {s : System ρ} (h : Invariant s) {i : ℕ} {c : Call}
    (hc : s.calls[i]? = some c) (hpc : c.pc = .type) :
    Moves s i c ((s.process c.process).write c.args.fn
      { (s.process c.process).static c.args.fn with type := c.args.fn.type }) (c.goto .srand) := by
  have hcall := h.call i c hc
  have hrec := sameRecord_write (s.process c.process) c.args.fn
    { (s.process c.process).static c.args.fn with type := c.args.fn.type }
    (s.process c.process).rand
  apply h.moveOn hc (by simp [hpc])
  · exact fun _ hj => Or.inl hj
  · refine ⟨fun _ => hcall.undrawn (by simp [hpc, beforeDraw]), ?_, nofun, nofun, nofun, nofun, ?_⟩
    · intro _
      rw [Process.write_same]
    · intro _
      exact hcall.unpublished (by simp [hpc, unpublished])
  · intro j d hd _ hp
    apply (h.call_in hd hp).keep hrec
    · intro _ ht
      by_cases hfn : d.args.fn = c.args.fn
      · simp [hfn]
      · simpa [hfn] using ht
    · intro _
      by_cases hfn : d.args.fn = c.args.fn <;> simp [hfn]
  · apply (h.process c.process).keep hrec hc
    · rfl
    · intro hf
      exact hf.elim (by simp [hpc, filling]) (by simp [hpc])
  · exact fun r hr => hrec.has hr
  · exact nofun

theorem Invariant.randomSeqMoves {s : System ρ} (h : Invariant s) {i : ℕ} {c : Call}
    (hc : s.calls[i]? = some c) (hpc : c.pc = .randomSeq) {randomSeq : ℕ} (rand : ρ)
    (hfresh : Fresh s c randomSeq) (hfree : FreeStatic s c) :
    Moves s i c { (s.process c.process).write c.args.fn
      { (s.process c.process).static c.args.fn with randomSeq } with rand }
      { c with drawn := some randomSeq, pc := .binary } := by
  have hcall := h.call i c hc
  have hactive : c.pc ≠ .returned := by simp [hpc]
  have hrec := sameRecord_write (s.process c.process) c.args.fn
    { (s.process c.process).static c.args.fn with randomSeq } rand
  obtain ⟨hnew, hstat, hkey⟩ := hfresh
  constructor
  · rfl
  · rfl
  · intro v hv
    rw [hcall.undrawn (by simp [hpc, beforeDraw])] at hv
    cases hv
  · exact hactive
  · intro j d v hd _ hdd hv
    obtain rfl := Option.some.inj hv
    exact forall_calls hnew hd hdd
  · exact fun _ hj => Or.inl hj
  · refine ⟨nofun, ?_, ?_, nofun, nofun, nofun, ?_⟩
    · intro _
      simpa using hcall.type (by simp [hpc, typed])
    · intro _
      simp
    · intro _ v hv
      obtain rfl := Option.some.inj hv
      exact ⟨hstat, hkey⟩
  · intro j d hd _ hp
    apply (h.call_in hd hp).keep hrec
    · intro _ ht
      by_cases hfn : d.args.fn = c.args.fn
      · simpa [hfn] using ht
      · simpa [hfn] using ht
    · intro hneeds
      have hfn : d.args.fn ≠ c.args.fn := by
        intro hfn
        rw [forall_calls (hfree hpc) hd hp hfn] at hneeds
        cases hneeds
      simp [hfn]
  · apply (h.process c.process).keep hrec hc
    · rfl
    · intro hf
      exact hf.elim (by simp [hpc, filling]) hactive
  · exact fun r hr => hrec.has hr
  · nofun

theorem Invariant.instanceKeyMoves {s : System ρ} (h : Invariant s) {i : ℕ} {c : Call}
    (hc : s.calls[i]? = some c) (hpc : c.pc = .instanceKey) :
    Moves s i c (s.process c.process) { c with
      instanceKey := ((s.process c.process).static c.args.fn).randomSeq, pc := .sendRequest } := by
  have hcall := h.call i c hc
  have hseq := hcall.static (by simp [hpc, needsStatic])
  apply h.moveOn hc (by simp [hpc])
  · exact fun _ hj => Or.inl hj
  · refine ⟨nofun, ?_, fun _ => hseq, fun _ => hseq, nofun, nofun, ?_⟩
    · intro _
      exact hcall.type (by simp [hpc, typed])
    · intro _
      exact hcall.unpublished (by simp [hpc, unpublished])
  · intro j d hd _ hp
    exact h.call_in hd hp
  · apply (h.process c.process).keep (.refl _) hc
    · rfl
    · intro hf
      exact hf.elim (by simp [hpc, filling]) (by simp [hpc])
  · exact fun _ hr => hr
  · exact nofun

theorem record_of_owner {calls : List Call} {i : ℕ} {c c' : Call} (hc : calls[i]? = some c)
    (hproc : c'.process = c.process) {P : Process ρ} (howner : P.owner = some i)
    (hf : Filled P c') (j : ℕ) (hj : P.owner = some j) :
    ∃ d, (calls.set i c')[j]? = some d ∧ d.process = c.process ∧ Filled P d := by
  obtain rfl := Option.some.inj (howner.symm.trans hj)
  have hlt : i < calls.length := (List.getElem?_eq_some_iff.mp hc).1
  exact ⟨c', List.getElem?_set_self hlt, hproc, hf⟩

theorem Invariant.statStatusMoves {s : System ρ} (h : Invariant s) {i : ℕ} {c : Call}
    (hc : s.calls[i]? = some c) (hpc : c.pc = .statStatus) (hfree : FreeRecord s c) :
    Moves s i c { s.process c.process with
      stat := { (s.process c.process).stat with status := 1 }
      owner := some i
      running := i :: (s.process c.process).running } (c.goto .statRecvNum) := by
  have hcall := h.call i c hc
  obtain ⟨hzero, hquiet⟩ := hfree hpc
  have hnone := (h.process c.process).idle hzero
  apply h.moveOn hc (by simp [hpc])
  · intro j hj
    rcases List.mem_cons.mp hj with rfl | hj
    · exact Or.inr rfl
    · exact Or.inl hj
  · refine ⟨nofun, ?_, ?_, nofun, nofun, fun _ => rfl, ?_⟩
    · intro _
      exact hcall.type (by simp [hpc, typed])
    · intro _
      exact hcall.static (by simp [hpc, needsStatic])
    · intro _
      exact hcall.unpublished (by simp [hpc, unpublished])
  · intro j d hd _ hp
    have hdcall := h.call_in hd hp
    refine ⟨hdcall.undrawn, hdcall.type, hdcall.static, hdcall.key, hdcall.taken, ?_,
      hdcall.unpublished⟩
    intro hfill
    rw [forall_calls hquiet hd hp] at hfill
    cases hfill
  · constructor
    · rw [hnone]
      intro j hj
      rw [List.mem_singleton.mp hj]
    · nofun
    · intro _
      exact nofun
    · apply record_of_owner hc
      · rfl
      · rfl
      · exact ⟨Or.inl rfl, nofun, nofun⟩
    · exact (h.process c.process).taken
  · exact fun _ hr => hr
  · exact nofun

theorem Invariant.statRandomSeqMoves {s : System ρ} (h : Invariant s) {i : ℕ} {c : Call}
    (hc : s.calls[i]? = some c) (hpc : c.pc = .statRandomSeq) :
    Moves s i c { s.process c.process with
      stat := { (s.process c.process).stat with
        randomSeq := ((s.process c.process).static c.args.fn).randomSeq } }
      (c.goto .statType) := by
  have hcall := h.call i c hc
  have hactive : c.pc ≠ .returned := by simp [hpc]
  have hseq := hcall.static (by simp [hpc, needsStatic])
  have howner := hcall.filling (by simp [hpc, filling])
  obtain ⟨hrunning, hidle, hpolling, -, htaken⟩ := h.process c.process
  apply h.moveOn hc hactive
  · exact fun _ hj => Or.inl hj
  · refine ⟨nofun, ?_, nofun, nofun, nofun, fun _ => howner, nofun⟩
    intro _
    exact hcall.type (by simp [hpc, typed])
  · intro j d hd hij hp
    have hdcall := h.call_in hd hp
    refine ⟨hdcall.undrawn, hdcall.type, hdcall.static, hdcall.key, hdcall.taken,
      hdcall.filling, ?_⟩
    intro hun randomSeq hdd
    refine ⟨?_, (hdcall.unpublished hun randomSeq hdd).2⟩
    rintro rfl
    -- the sequence of another call that has not returned
    apply (h.fresh_of_drawn hc hactive j d _ hd hij hdd hseq).2
    refine ⟨hp, by simp [hdd], Or.inl ?_⟩
    intro hret
    rw [hret] at hun
    cases hun
  · refine ⟨hrunning, hidle, hpolling, ?_, htaken⟩
    apply record_of_owner hc
    · rfl
    · exact howner
    · exact ⟨Or.inl rfl, fun _ => hseq, nofun⟩
  · exact fun _ hr => hr
  · exact nofun

theorem Invariant.statTypeMoves {s : System ρ} (h : Invariant s) {i : ℕ} {c : Call}
    (hc : s.calls[i]? = some c) (hpc : c.pc = .statType) :
    Moves s i c { s.process c.process with
      stat := { (s.process c.process).stat with
        type := ((s.process c.process).static c.args.fn).type } } (c.goto .statIdNum) := by
  have hcall := h.call i c hc
  have hactive : c.pc ≠ .returned := by simp [hpc]
  have htype := hcall.type (by simp [hpc, typed])
  have howner := hcall.filling (by simp [hpc, filling])
  obtain ⟨hrunning, hidle, hpolling, hrecord, htaken⟩ := h.process c.process
  have hfilled : Filled (s.process c.process) c := by
    obtain ⟨d, hd, -, hf⟩ := hrecord i howner
    obtain rfl := Option.some.inj (hc.symm.trans hd)
    exact hf
  apply h.moveOn hc hactive
  · exact fun _ hj => Or.inl hj
  · refine ⟨nofun, fun _ => htype, nofun, nofun, nofun, fun _ => howner, nofun⟩
  · intro j d hd _ hp
    have hdcall := h.call_in hd hp
    exact ⟨hdcall.undrawn, hdcall.type, hdcall.static, hdcall.key, hdcall.taken,
      hdcall.filling, hdcall.unpublished⟩
  · refine ⟨hrunning, hidle, hpolling, ?_, htaken⟩
    apply record_of_owner hc
    · rfl
    · exact howner
    · refine ⟨Or.inl rfl, ?_, fun _ => htype⟩
      intro _
      exact hfilled.seq (by simp [hpc, unsequenced])
  · exact fun _ hr => hr
  · exact nofun

theorem Invariant.opMoves {G : RandLib ρ} {replyTimeout now : ℤ} {s : System ρ} (h : Invariant s)
    {i : ℕ} {c : Call} (hc : s.calls[i]? = some c) (hfresh : FreshSeq G s c)
    (hstatic : FreeStatic s c) (hfree : FreeRecord s c) {P : Process ρ} {c' : Call}
    (hop : opStep G replyTimeout now i (s.process c.process) c = some (P, c')) :
    Moves s i c P c' := by
  have hview := SameView.refl (s.process c.process)
  have hlocal := fun stat rand => sameView_local (s.process c.process) stat rand
  unfold opStep at hop
  cases hpc : c.pc with
  | checkStatus =>
    simp only [hpc, Option.some.injEq, Prod.mk.injEq] at hop
    obtain ⟨rfl, rfl⟩ := hop
    split
    · apply h.goto hc hpc
      · constructor <;> decide
      · simp
      · exact hview
    · apply h.goto hc hpc
      · constructor <;> decide
      · simp
      · exact hview
  | message =>
    simp only [hpc, Option.map_eq_some_iff, Prod.mk.injEq] at hop
    obtain ⟨message, -, rfl, rfl⟩ := hop
    apply h.goto hc hpc
    · constructor <;> decide
    · simp
    · exact hview
  | idList =>
    simp only [hpc, Option.some.injEq, Prod.mk.injEq] at hop
    obtain ⟨rfl, rfl⟩ := hop
    apply h.goto hc hpc
    · constructor <;> decide
    · simp
    · exact sameView_write rfl rfl
  | msg =>
    simp only [hpc, Option.some.injEq, Prod.mk.injEq] at hop
    obtain ⟨rfl, rfl⟩ := hop
    apply h.goto hc hpc
    · constructor <;> decide
    · simp
    · exact sameView_write rfl rfl
  | type =>
    simp only [hpc, Option.some.injEq, Prod.mk.injEq] at hop
    obtain ⟨rfl, rfl⟩ := hop
    exact h.typeMoves hc hpc
  | srand =>
    simp only [hpc, Option.some.injEq, Prod.mk.injEq] at hop
    obtain ⟨rfl, rfl⟩ := hop
    apply h.goto hc hpc
    · constructor <;> decide
    · simp
    · exact hlocal _ _ rfl rfl rfl
  | randomSeq =>
    simp only [hpc, Option.some.injEq, Prod.mk.injEq] at hop
    obtain ⟨rfl, rfl⟩ := hop
    exact h.randomSeqMoves hc hpc _ (hfresh hpc) hstatic
  | binary =>
    simp only [hpc, Option.some.injEq, Prod.mk.injEq] at hop
    obtain ⟨rfl, rfl⟩ := hop
    split
    · apply h.goto hc hpc
      · constructor <;> decide
      · simp
      · exact sameView_write rfl rfl
    · apply h.goto hc hpc
      · constructor <;> decide
      · simp
      · exact sameView_write rfl rfl
  | instanceKey =>
    simp only [hpc, Option.some.injEq, Prod.mk.injEq] at hop
    obtain ⟨rfl, rfl⟩ := hop
    exact h.instanceKeyMoves hc hpc
  | sendRequest =>
    simp only [hpc, Option.some.injEq, Prod.mk.injEq] at hop
    obtain ⟨rfl, rfl⟩ := hop
    apply h.goto hc hpc
    · constructor <;> decide
    · simp
    · exact hview
  | startTime =>
    simp only [hpc, Option.some.injEq, Prod.mk.injEq] at hop
    obtain ⟨rfl, rfl⟩ := hop
    apply h.goto hc hpc
    · constructor <;> decide
    · simp
    · exact hview
  | loopTest =>
    simp only [hpc, Option.some.injEq, Prod.mk.injEq] at hop
    obtain ⟨rfl, rfl⟩ := hop
    split
    · apply h.goto hc hpc
      · constructor <;> decide
      · simp
      · exact hview
    · apply h.goto hc hpc
      · constructor <;> decide
      · simp
      · exact hview
  | nowTime =>
    simp only [hpc, Option.some.injEq, Prod.mk.injEq] at hop
    obtain ⟨rfl, rfl⟩ := hop
    apply h.goto hc hpc
    · constructor <;> decide
    · simp
    · exact hview
  | sendTransfer =>
    simp only [hpc, Option.some.injEq, Prod.mk.injEq] at hop
    obtain ⟨rfl, rfl⟩ := hop
    apply h.goto hc hpc
    · constructor <;> decide
    · simp
    · exact hview
  | statStatus =>
    simp only [hpc, Option.some.injEq, Prod.mk.injEq] at hop
    obtain ⟨rfl, rfl⟩ := hop
    exact h.statStatusMoves hc hpc hfree
  | statRecvNum =>
    simp only [hpc, Option.some.injEq, Prod.mk.injEq] at hop
    obtain ⟨rfl, rfl⟩ := hop
    apply h.goto hc hpc
    · constructor <;> decide
    · simp
    · exact hlocal _ _ rfl rfl rfl
  | statRandomSeq =>
    simp only [hpc, Option.some.injEq, Prod.mk.injEq] at hop
    obtain ⟨rfl, rfl⟩ := hop
    exact h.statRandomSeqMoves hc hpc
  | statType =>
    simp only [hpc, Option.some.injEq, Prod.mk.injEq] at hop
    obtain ⟨rfl, rfl⟩ := hop
    exact h.statTypeMoves hc hpc
  | statIdNum =>
    simp only [hpc, Option.some.injEq, Prod.mk.injEq] at hop
    obtain ⟨rfl, rfl⟩ := hop
    apply h.goto hc hpc
    · constructor <;> decide
    · simp
    · exact hlocal _ _ rfl rfl rfl
  | statIdList =>
    simp only [hpc, Option.some.injEq, Prod.mk.injEq] at hop
    obtain ⟨rfl, rfl⟩ := hop
    apply h.goto hc hpc
    · constructor <;> decide
    · simp
    · exact hlocal _ _ rfl rfl rfl
  | statStartTime =>
    simp only [hpc, Option.some.injEq, Prod.mk.injEq] at hop
    obtain ⟨rfl, rfl⟩ := hop
    apply h.goto hc hpc
    · constructor <;> decide
    · simp
    · exact hlocal _ _ rfl rfl rfl
  | drain => simp [hpc] at hop
  | received r => simp [hpc] at hop
  | returned => simp [hpc] at hop

theorem Invariant.written_from {s : System ρ} (h : Invariant s) {i : ℕ} {c : Call}
    (hc : s.calls[i]? = some c) :
    ∀ req ∈ (written (s.process c.process) c).map (i, ·),
      From s.calls req.1 req.2.type req.2.randomSeq := by
  have hcall := h.call i c hc
  have hfrom : typed c.pc = true → needsStatic c.pc = true →
      ∀ req ∈ [(s.process c.process).static c.args.fn].map (i, ·),
        From s.calls req.1 req.2.type req.2.randomSeq := by
    intro htyped hneeds req hreq
    obtain rfl : req = (i, (s.process c.process).static c.args.fn) := by simpa using hreq
    exact ⟨c, hc, hcall.static hneeds, (hcall.type htyped).symm⟩
  cases hpc : c.pc with
  | sendRequest =>
    simp only [written, hpc]
    apply hfrom <;> rw [hpc] <;> rfl
  | sendTransfer =>
    simp only [written, hpc]
    apply hfrom <;> rw [hpc] <;> rfl
  | _ => simp [written, hpc]

end OutstandingRequests
