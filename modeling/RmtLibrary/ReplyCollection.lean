import RmtLibrary.DatainfoServer
import Mathlib.Data.List.Forall2

/-! # The replies an information call collects

One turn of the loop stores every reply that is there before the count is looked at again. What
a call stores is therefore decided by the replies that arrive up to the turn that reaches the
number of IDs, or up to the deadline. -/
namespace ReplyCollection

open CString (Text)
open DdsTransport (Sample takenOf leftOf runCallback)
open Idl (DataInfoRequest DataInfoReply)
open DatainfoServer

def isFor (req : DataInfoRequest) (reply : DataInfoReply) : Bool :=
  reply.type = req.type ∧ reply.randomSeq = req.randomSeq

/-- The entry holds the ID of the reply and what `strncpy` makes of its text. -/
def StoredAs (reply : DataInfoReply) (entry : ReplyEntry) : Prop :=
  entry.deviceID = reply.deviceID ∧
    ∃ dst, entry.valueList = CString.strncpy dst reply.msg configKeyStrLen

structure Stored (replys : ReplyData) (heard : List DataInfoReply) : Prop where
  num : replys.num = heard.length
  fits : heard.length ≤ replys.list.length
  entries : List.Forall₂ StoredAs heard (replys.list.take heard.length)

theorem recvReply_other {reply : DataInfoReply} {replys : ReplyData}
    (h : isFor replys.req reply = false) : recvReply reply replys = some (replys, -1) := by
  apply if_pos
  simp only [isFor, decide_eq_false_iff_not, not_and_or] at h
  exact h

theorem recvReply_own {reply : DataInfoReply} {replys : ReplyData} {entry : ReplyEntry}
    (hfor : isFor replys.req reply = true) (hentry : replys.list[replys.num]? = some entry) :
    recvReply reply replys = some ({ replys with
      list := replys.list.set replys.num
        ⟨reply.deviceID, CString.strncpy entry.valueList reply.msg configKeyStrLen⟩
      num := replys.num + 1 }, 0) := by
  have hown : ¬ (reply.type ≠ replys.req.type ∨ reply.randomSeq ≠ replys.req.randomSeq) := by
    simpa [isFor] using hfor
  simp only [recvReply, if_neg hown, hentry, Option.bind_eq_bind, Option.bind_some]

theorem forall₂_take_succ {α β : Type} {R : α → β → Prop} {as : List α} {bs : List β} {n : ℕ}
    (h : List.Forall₂ R as (bs.take n)) (hn : n < bs.length) {a : α} {b : β} (hab : R a b) :
    List.Forall₂ R (as ++ [a]) ((bs.set n b).take (n + 1)) := by
  have htake : (bs.set n b).take (n + 1) = bs.take n ++ [b] := by
    rw [List.take_add_one, List.take_set_of_le le_rfl, List.getElem?_set_self hn]
    rfl
  rw [htake]
  exact List.rel_append h (.cons hab .nil)

theorem recvReply_stores {reply : DataInfoReply} {replys : ReplyData} {heard : List DataInfoReply}
    (h : Stored replys heard) (hfor : isFor replys.req reply = true)
    (hroom : heard.length < replys.list.length) :
    ∃ replys', recvReply reply replys = some (replys', 0) ∧ replys'.req = replys.req ∧
      replys'.list.length = replys.list.length ∧ Stored replys' (heard ++ [reply]) := by
  obtain ⟨entry, hentry⟩ : ∃ entry, replys.list[replys.num]? = some entry := by
    rw [h.num]
    exact ⟨_, List.getElem?_eq_getElem hroom⟩
  refine ⟨_, recvReply_own hfor hentry, rfl, by simp, ?_⟩
  constructor
  · simp [h.num]
  · simp only [List.length_append, List.length_cons, List.length_nil, List.length_set]
    omega
  · simp only [h.num, List.length_append, List.length_cons, List.length_nil, Nat.zero_add]
    exact forall₂_take_succ h.entries hroom ⟨rfl, _, rfl⟩

theorem recvReply_faults {reply : DataInfoReply} {replys : ReplyData} {heard : List DataInfoReply}
    (h : Stored replys heard) (hfor : isFor replys.req reply = true)
    (hfull : replys.list.length ≤ heard.length) : recvReply reply replys = none := by
  have hown : ¬ (reply.type ≠ replys.req.type ∨ reply.randomSeq ≠ replys.req.randomSeq) := by
    simpa [isFor] using hfor
  have hentry : replys.list[replys.num]? = none := by
    rw [h.num]
    exact List.getElem?_eq_none hfull
  simp only [recvReply, if_neg hown, hentry]
  rfl

/-- One drain stores the replies to the request, and faults if there are more than fit. -/
theorem drain_spec {replys : ReplyData} {heard : List DataInfoReply} (h : Stored replys heard)
    (msgs : List DataInfoReply) :
    match runCallback recvReply replys msgs with
    | none => replys.list.length < (heard ++ msgs.filter (isFor replys.req)).length
    | some replys' => replys'.req = replys.req ∧ replys'.list.length = replys.list.length ∧
        Stored replys' (heard ++ msgs.filter (isFor replys.req)) := by
  induction msgs generalizing replys heard with
  | nil => simpa using h
  | cons msg msgs ih =>
    rw [DdsTransport.runCallback_cons]
    by_cases hfor : isFor replys.req msg
    · rw [List.filter_cons_of_pos hfor, List.append_cons]
      by_cases hroom : heard.length < replys.list.length
      · obtain ⟨replys', hrecv, hreq, hlen, h'⟩ := recvReply_stores h hfor hroom
        have hrest := ih h'
        rw [hreq, hlen] at hrest
        simpa only [hrecv, Option.bind_some] using hrest
      · rw [recvReply_faults h hfor (by omega), Option.bind_none]
        simp only [List.length_append, List.length_cons, List.length_nil]
        omega
    · rw [List.filter_cons_of_neg hfor, recvReply_other (by simpa using hfor), Option.bind_some]
      exact ih h

/-- The replies to the request that arrive up to the turn at which `count` reaches the number of
IDs, or up to the deadline. -/
def heard (replyTimeout : ℤ) (req : DataInfoRequest) (idNum : ℕ) (start : ℤ) :
    List (List (Sample DataInfoReply) × ℤ) → List (Sample DataInfoReply) → ℕ → ℤ →
    List DataInfoReply
  | [], _, _, _ => []
  | (arrived, now') :: turns, reader, count, now =>
    if count < idNum ∧ now - start ≤ replyTimeout then
      let got := (takenOf DataInfoReply.randomSeq req.randomSeq (reader ++ arrived)).filter
        (isFor req)
      got ++ heard replyTimeout req idNum start turns
        (leftOf DataInfoReply.randomSeq req.randomSeq (reader ++ arrived)) (count + got.length) now'
    else []

def ends (replyTimeout : ℤ) (req : DataInfoRequest) (idNum : ℕ) (start : ℤ) :
    List (List (Sample DataInfoReply) × ℤ) → List (Sample DataInfoReply) → ℕ → ℤ → Bool
  | [], _, count, now => !decide (count < idNum ∧ now - start ≤ replyTimeout)
  | (arrived, now') :: turns, reader, count, now =>
    if count < idNum ∧ now - start ≤ replyTimeout then
      let got := (takenOf DataInfoReply.randomSeq req.randomSeq (reader ++ arrived)).filter
        (isFor req)
      ends replyTimeout req idNum start turns
        (leftOf DataInfoReply.randomSeq req.randomSeq (reader ++ arrived)) (count + got.length) now'
    else true

theorem goesOn_iff (replyTimeout : ℤ) {c : Waiting} {hs : List DataInfoReply}
    (h : Stored c.replys hs) (hlen : c.replys.list.length = c.idNum) :
    c.goesOn replyTimeout = true ↔
      hs.length < c.idNum ∧ c.nowTime - c.startTime ≤ replyTimeout := by
  have hfits := h.fits
  simp only [Waiting.goesOn, h.num, Bool.and_eq_true, bne_iff_ne, Bool.not_eq_true',
    decide_eq_false_iff_not]
  omega

/-- The loop stores what is heard, and faults exactly if that is more than was asked for. -/
theorem waitReplies_spec (replyTimeout : ℤ) (turns : List (List (Sample DataInfoReply) × ℤ))
    (reader : List (Sample DataInfoReply)) {c : Waiting} {hs : List DataInfoReply}
    (h : Stored c.replys hs) (hlen : c.replys.list.length = c.idNum) :
    let req := c.replys.req
    let all := hs ++ heard replyTimeout req c.idNum c.startTime turns reader hs.length c.nowTime
    let ended := ends replyTimeout req c.idNum c.startTime turns reader hs.length c.nowTime
    match waitReplies replyTimeout turns reader c with
    | .fault => c.idNum < all.length
    | .waiting _ _ => all.length ≤ c.idNum ∧ ended = false
    | .returned list num => all.length ≤ c.idNum ∧ ended = true ∧ num = all.length ∧
        List.Forall₂ StoredAs all (list.take num) := by
  induction turns generalizing reader c hs with
  | nil =>
    have hgo := goesOn_iff replyTimeout h hlen
    have hfits := h.fits
    have hentries := h.entries
    simp only [waitReplies, heard, ends, List.append_nil]
    by_cases hc : c.goesOn replyTimeout = true
    · simp only [hc, if_true]
      exact ⟨by omega, by simpa using hgo.mp hc⟩
    · simp only [hc, if_false, Bool.false_eq_true]
      refine ⟨by omega, ?_, h.num, by rwa [h.num]⟩
      rw [hgo] at hc
      simp only [Bool.not_eq_true', decide_eq_false_iff_not]
      exact hc
  | cons turn turns ih =>
    obtain ⟨arrived, now⟩ := turn
    have hgo := goesOn_iff replyTimeout h hlen
    have hfits := h.fits
    have hentries := h.entries
    by_cases hc : c.goesOn replyTimeout = true
    · have hcond := hgo.mp hc
      simp only [waitReplies, heard, ends, hc, if_true, if_pos hcond, pollReplies,
        DdsTransport.tryRecvInstance_eq]
      have hdrain := drain_spec h
        (takenOf DataInfoReply.randomSeq c.replys.req.randomSeq (reader ++ arrived))
      revert hdrain
      cases runCallback recvReply c.replys
        (takenOf DataInfoReply.randomSeq c.replys.req.randomSeq (reader ++ arrived)) with
      | none =>
        intro hover
        simp only [Option.map_none, Option.bind_eq_bind, Option.bind_none]
        rw [← List.append_assoc, List.length_append]
        omega
      | some replys =>
        rintro ⟨hreq, hlen', h'⟩
        have hrest := ih (leftOf DataInfoReply.randomSeq c.replys.req.randomSeq (reader ++ arrived))
          (c := { c with replys, nowTime := now }) h' (hlen'.trans hlen)
        simp only [hreq, List.append_assoc, List.length_append] at hrest ⊢
        exact hrest
    · have hcond : ¬ (hs.length < c.idNum ∧ c.nowTime - c.startTime ≤ replyTimeout) :=
        fun hcond => hc (hgo.mpr hcond)
      simp only [waitReplies, heard, ends, hc, if_neg hcond, Bool.false_eq_true, if_false,
        List.append_nil]
      exact ⟨by omega, trivial, h.num, by rwa [h.num]⟩

inductive InfoCall where
  | getInfo (idList : List ℕ) (keyList : Text)
  | setInfo (devList : List DataInfo)
  | setInfoWithSameValue (idList : List ℕ) (valueList : Text)

def InfoCall.idNum : InfoCall → ℕ
  | .getInfo idList _ => idList.length
  | .setInfo devList => devList.length
  | .setInfoWithSameValue idList _ => idList.length

def InfoCall.request (randomSeq : ℕ) : InfoCall → Option DataInfoRequest
  | .getInfo idList keyList => some (getInfoRequest idList keyList randomSeq)
  | .setInfo devList => setInfoRequest devList randomSeq
  | .setInfoWithSameValue idList valueList =>
    some (setInfoWithSameValueRequest idList valueList randomSeq)

def InfoCall.run (replyTimeout : ℤ) (randomSeq : ℕ) (sur : Surroundings) : InfoCall → Outcome
  | .getInfo idList keyList => datainfoServerGetInfo replyTimeout idList keyList randomSeq sur
  | .setInfo devList => datainfoServerSetInfo replyTimeout devList randomSeq sur
  | .setInfoWithSameValue idList valueList =>
    datainfoServerSetInfoWithSameValue replyTimeout idList valueList randomSeq sur

theorem InfoCall.run_eq (replyTimeout : ℤ) (randomSeq : ℕ) (sur : Surroundings) (call : InfoCall) :
    call.run replyTimeout randomSeq sur =
      match call.request randomSeq with
      | none => .fault
      | some req => sendAndWait replyTimeout req call.idNum sur := by
  cases call <;> rfl

def InfoCall.heard (replyTimeout : ℤ) (req : DataInfoRequest) (sur : Surroundings)
    (call : InfoCall) : List DataInfoReply :=
  ReplyCollection.heard replyTimeout req call.idNum sur.start sur.turns sur.reader 0 sur.start

def InfoCall.ends (replyTimeout : ℤ) (req : DataInfoRequest) (sur : Surroundings)
    (call : InfoCall) : Bool :=
  ReplyCollection.ends replyTimeout req call.idNum sur.start sur.turns sur.reader 0 sur.start

/-- No entry behind the end of the list is written, and the entries that are handed back are at
most as many as were asked for and of different devices. -/
def WithinBounds (idNum : ℕ) : Outcome → Prop
  | .fault => False
  | .waiting _ _ => True
  | .returned list infoNum => infoNum ≤ idNum ∧ ((list.take infoNum).map ReplyEntry.deviceID).Nodup

theorem storedAs_ids {hs : List DataInfoReply} {entries : List ReplyEntry}
    (h : List.Forall₂ StoredAs hs entries) :
    entries.map ReplyEntry.deviceID = hs.map DataInfoReply.deviceID := by
  induction h with
  | nil => rfl
  | cons hab _ ih => rw [List.map_cons, List.map_cons, hab.1, ih]

/-- The reply list stays within its bounds if and only if the request could be built, no more
replies are heard than devices were asked for, and, if the call returns, they are of different
devices. -/
theorem within_bounds_iff (replyTimeout : ℤ) (randomSeq : ℕ) (sur : Surroundings)
    (call : InfoCall) :
    WithinBounds call.idNum (call.run replyTimeout randomSeq sur) ↔
      ∃ req, call.request randomSeq = some req ∧
        (call.heard replyTimeout req sur).length ≤ call.idNum ∧
        (call.ends replyTimeout req sur = true →
          ((call.heard replyTimeout req sur).map DataInfoReply.deviceID).Nodup) := by
  rw [InfoCall.run_eq]
  cases hreq : call.request randomSeq with
  | none => simp [WithinBounds]
  | some req =>
    have hstored : Stored (startWaiting req call.idNum sur.block sur.start).replys [] :=
      ⟨rfl, Nat.zero_le _, .nil⟩
    have hspec := waitReplies_spec replyTimeout sur.turns sur.reader hstored
      (by simp [startWaiting])
    simp only [Option.some.injEq, exists_eq_left', sendAndWait]
    simp only [List.nil_append, List.length_nil] at hspec
    revert hspec
    cases waitReplies replyTimeout sur.turns sur.reader
      (startWaiting req call.idNum sur.block sur.start) with
    | fault =>
      intro hover
      simp only [WithinBounds, false_iff, not_and]
      intro hle
      exact absurd hle (Nat.not_le.mpr hover)
    | waiting reader c =>
      rintro ⟨hle, hend⟩
      simp only [WithinBounds, true_iff]
      refine ⟨hle, fun h => ?_⟩
      rw [InfoCall.ends] at h
      exact absurd (hend.symm.trans h) (by decide)
    | returned list num =>
      rintro ⟨hle, hend, hnum, hentries⟩
      have hids := storedAs_ids hentries
      simp only [WithinBounds, hids]
      constructor
      · rintro ⟨-, hd⟩
        exact ⟨hle, fun _ => hd⟩
      · rintro ⟨-, hd⟩
        exact ⟨hnum ▸ hle, hd hend⟩

/-- Two agents with the ID 5 answer the one request for it before the first turn of the loop. -/
theorem second_reply_overflows :
    let reply : DataInfoReply := ⟨5, .get, 1, ['k', ':', 'v', ';'], []⟩
    let sur : Surroundings :=
      ⟨fun _ => ⟨0, []⟩, 0, [], [([⟨true, reply⟩, ⟨true, reply⟩], 1)]⟩
    ¬ WithinBounds 1 ((InfoCall.getInfo [5] ['k']).run 10 1 sur) := by
  intro reply sur
  have hfault : (InfoCall.getInfo [5] ['k']).run 10 1 sur = .fault := by decide
  rw [hfault]
  exact id

end ReplyCollection
