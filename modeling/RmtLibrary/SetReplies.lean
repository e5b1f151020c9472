import RmtLibrary.SetIsolation
import RmtLibrary.SetParsing

/-! # The buffers of a SET reply

The SET branch formats `key:result;` into 128 characters and appends it to a text of 1024, once
for every item that has a set function. Unlike the GET branch it never makes room. -/
namespace SetReplies

open CString (Text nul nextToken)
open Idl (DataInfoType)
open DatainfoAgent
open SetIsolation (FitsAnyReply)
open SetItems
open SetParsing (callsSetFunc)
open SetRoundTrip (resultText replyText)

variable {σ τ : Type}

/-- What the set functions return, in order, up to the first pair that cannot be read. -/
def results (agent : Agent σ) : List Turn → σ → List (Text × BitVec 32)
  | [], _ => []
  | turn :: turns, w =>
    match turn.cut with
    | none => []
    | some (key, value) =>
      match (agent.find key).bind DatainfoFunc.setFunc with
      | none => results agent turns w
      | some set =>
        match value with
        | none => []
        | some value => (key, (set value w).1) :: results agent turns (set value w).2

/-- The keys of these calls. They depend on the message and on which keys have set functions. -/
def calledKeys (agent : Agent σ) : List Turn → List Text
  | [] => []
  | turn :: turns =>
    match turn.cut with
    | none => []
    | some (key, value) =>
      if callsSetFunc agent key then
        match value with
        | none => []
        | some _ => key :: calledKeys agent turns
      else calledKeys agent turns

/-- Each `sprintf` and each `strcat` of the reply stays in its buffer. -/
def WithinBuffers (resultMsg : Text) : List (Text × BitVec 32) → Prop
  | [] => True
  | r :: rs => ∃ resultMsg', appendResult resultMsg r.1 r.2 = some resultMsg' ∧
      WithinBuffers resultMsg' rs

def Unreadable (agent : Agent σ) (turn : Turn) : Prop :=
  turn.cut = none ∨ ∃ key, turn.cut = some (key, none) ∧ callsSetFunc agent key = true

theorem appendResult_eq (resultMsg key : Text) (result : BitVec 32) :
    appendResult resultMsg key result =
      if (resultText (key, result)).length < 128 ∧
        (resultMsg ++ resultText (key, result)).length < 1024
      then some (resultMsg ++ resultText (key, result)) else none := rfl

theorem appendResult_some_iff {resultMsg resultMsg' : Text} {r : Text × BitVec 32} :
    appendResult resultMsg r.1 r.2 = some resultMsg' ↔
      ((resultText r).length < 128 ∧ (resultMsg ++ resultText r).length < 1024) ∧
        resultMsg' = resultMsg ++ resultText r := by
  rw [appendResult_eq, Option.ite_none_right_eq_some, Option.some.injEq, eq_comm]

/-- The branch runs to its end exactly if all appends stay in their buffers and all pairs it
meets can be read. -/
theorem runTurns_eq (agent : Agent σ) (turns : List Turn) (resultMsg : Text) (w : σ) :
    (∃ w', runTurns agent turns (resultMsg, w) =
      some (resultMsg ++ replyText (results agent turns w), w')) ∧
        WithinBuffers resultMsg (results agent turns w) ∨
    runTurns agent turns (resultMsg, w) = none ∧
      (¬ WithinBuffers resultMsg (results agent turns w) ∨
        ∃ turn ∈ turns, Unreadable agent turn) := by
  induction turns generalizing resultMsg w with
  | nil => exact Or.inl ⟨⟨w, by simp [results, replyText]⟩, trivial⟩
  | cons turn turns ih =>
    have hbehind : (∃ turn' ∈ turns, Unreadable agent turn') →
        ∃ turn' ∈ turn :: turns, Unreadable agent turn' := by
      rintro ⟨turn', hm, hu⟩
      exact ⟨turn', List.mem_cons_of_mem _ hm, hu⟩
    obtain ⟨pair, cut⟩ := turn
    cases cut with
    | none => exact Or.inr ⟨rfl, Or.inr ⟨_, List.mem_cons_self, Or.inl rfl⟩⟩
    | some item =>
      obtain ⟨key, value⟩ := item
      cases hset : (agent.find key).bind DatainfoFunc.setFunc with
      | none =>
        have hlater := ih resultMsg w
        simp only [runTurns_cons, runItem, hset, results, Option.bind_some]
        rcases hlater with hend | ⟨hnone, hwhy⟩
        · exact Or.inl hend
        · exact Or.inr ⟨hnone, hwhy.imp_right hbehind⟩
      | some set =>
        cases value with
        | none =>
          refine Or.inr ⟨by simp [runItem, hset], Or.inr ⟨_, List.mem_cons_self, Or.inr ?_⟩⟩
          exact ⟨key, rfl, by simp [callsSetFunc, hset]⟩
        | some value =>
          simp only [runTurns_cons, runItem, hset, results, Option.bind_eq_bind,
            Option.bind_some, WithinBuffers]
          cases happend : appendResult resultMsg key (set value w).1 with
          | none => exact Or.inr ⟨rfl, Or.inl (by simp)⟩
          | some resultMsg' =>
            obtain ⟨-, hmsg⟩ := appendResult_some_iff (r := (key, (set value w).1)).mp happend
            simp only [Option.bind_some, Option.some.injEq, exists_eq_left']
            rcases ih resultMsg' (set value w).2 with ⟨⟨w', hrun⟩, hin⟩ | ⟨hnone, hwhy⟩
            · refine Or.inl ⟨⟨w', ?_⟩, hin⟩
              rw [hrun, hmsg]
              simp [replyText]
            · exact Or.inr ⟨hnone, hwhy.imp_right hbehind⟩

theorem withinBuffers_iff {resultMsg : Text} (hlen : resultMsg.length < 1024)
    (rs : List (Text × BitVec 32)) : WithinBuffers resultMsg rs ↔
      (∀ r ∈ rs, (resultText r).length < 128) ∧ (resultMsg ++ replyText rs).length < 1024 := by
  induction rs generalizing resultMsg with
  | nil => simpa [WithinBuffers, replyText] using hlen
  | cons r rs ih =>
    have hsplit : resultMsg ++ replyText (r :: rs) =
        (resultMsg ++ resultText r) ++ replyText rs := by simp [replyText]
    rw [WithinBuffers, List.forall_mem_cons, hsplit]
    simp only [appendResult_some_iff, and_assoc, exists_and_left, exists_eq_left]
    constructor
    · rintro ⟨hitem, htext, hrest⟩
      obtain ⟨hitems, hall⟩ := (ih htext).mp hrest
      exact ⟨hitem, hitems, hall⟩
    · rintro ⟨hitem, hitems, hall⟩
      have htext : (resultMsg ++ resultText r).length < 1024 := by
        rw [List.length_append] at hall
        omega
      exact ⟨hitem, htext, (ih htext).mpr ⟨hitems, hall⟩⟩

theorem results_keys (agent : Agent σ) (turns : List Turn) (w : σ) :
    (results agent turns w).map Prod.fst = calledKeys agent turns := by
  induction turns generalizing w with
  | nil => rfl
  | cons turn turns ih =>
    obtain ⟨pair, cut⟩ := turn
    cases cut with
    | none => rfl
    | some item =>
      obtain ⟨key, value⟩ := item
      cases hset : (agent.find key).bind DatainfoFunc.setFunc with
      | none => simp [results, calledKeys, callsSetFunc, hset, ih]
      | some set => cases value <;> simp [results, calledKeys, callsSetFunc, hset, ih]

theorem calledKeys_congr {agent : Agent σ} {agent' : Agent τ}
    (h : ∀ key, callsSetFunc agent' key = callsSetFunc agent key) (turns : List Turn) :
    calledKeys agent' turns = calledKeys agent turns := by
  induction turns with
  | nil => rfl
  | cons turn turns ih => simp only [calledKeys, h, ih]

theorem resultText_length_le (r : Text × BitVec 32) :
    (resultText r).length ≤ r.1.length + 13 := by
  have hnum := SetIsolation.formatInt_length r.2
  simp only [resultText, List.length_append, List.length_cons, List.length_nil]
  omega

theorem replyText_length_le (rs : List (Text × BitVec 32)) :
    (replyText rs).length ≤ ((rs.map Prod.fst).map fun key => key.length + 13).sum := by
  induction rs with
  | nil => exact Nat.zero_le _
  | cons r rs ih =>
    have hitem := resultText_length_le r
    simp only [replyText, List.flatMap_cons, List.length_append, List.map_cons,
      List.sum_cons] at ih ⊢
    omega

def longestResults (agent : Agent σ) : Agent σ :=
  { agent with
    datainfoFuncMaps := agent.datainfoFuncMaps.map fun f =>
      { f with setFunc := f.setFunc.map fun _ _ w => (BitVec.intMin 32, w) } }

theorem longestResults_find (agent : Agent σ) (key : Text) :
    ((longestResults agent).find key).bind DatainfoFunc.setFunc =
      ((agent.find key).bind DatainfoFunc.setFunc).map fun _ _ w => (BitVec.intMin 32, w) := by
  rw [Agent.find, longestResults, List.find?_map, Agent.find, Function.comp_def]
  cases agent.datainfoFuncMaps.find? (·.key == key) <;> rfl

theorem longestResults_results (agent : Agent σ) (turns : List Turn) (w : σ) :
    results (longestResults agent) turns w =
      (calledKeys agent turns).map fun key => (key, BitVec.intMin 32) := by
  induction turns with
  | nil => rfl
  | cons turn turns ih =>
    obtain ⟨pair, cut⟩ := turn
    cases cut with
    | none => rfl
    | some item =>
      obtain ⟨key, value⟩ := item
      have hfind := longestResults_find agent key
      cases hset : (agent.find key).bind DatainfoFunc.setFunc with
      | none =>
        rw [hset] at hfind
        simp [results, calledKeys, callsSetFunc, hset, hfind, ih]
      | some set =>
        rw [hset] at hfind
        cases value <;> simp [results, calledKeys, callsSetFunc, hset, hfind, ih]

theorem longest_length (keys : List Text) :
    (∀ r ∈ keys.map fun key => (key, BitVec.intMin 32), (resultText r).length < 128) ∧
      (replyText (keys.map fun key => (key, BitVec.intMin 32))).length < 1024 ↔
    FitsAnyReply keys := by
  have hnum : (CString.formatInt (BitVec.intMin 32).toInt).length = 11 := by decide
  have hitem : ∀ key : Text, (resultText (key, BitVec.intMin 32)).length = key.length + 13 := by
    intro key
    simp only [resultText, List.length_append, List.length_cons, List.length_nil, hnum]
  have htext : (replyText (keys.map fun key => (key, BitVec.intMin 32))).length =
      (keys.map fun key => key.length + 13).sum := by
    simp only [replyText, List.flatMap_map, List.length_flatMap, hitem]
  rw [List.forall_mem_map, htext]
  simp only [hitem]
  exact ⟨fun h => ⟨h.1, h.2⟩, fun h => ⟨h.item, h.text⟩⟩

/-- The branch ends with its reply exactly if every append stays in its buffer and every pair that
it meets can be read. The appends do if and only if each `key:result;` is shorter than 128
characters and all of them together are shorter than 1024; and they do whatever the set functions
return if and only if this is so for the longest result. -/
theorem set_reply_fits_iff (agent : Agent σ) {type : DataInfoType} {msg : Text} (hn : nul ∉ msg)
    {foundIdx : ℕ} {turns : List Turn} (hturns : parsePairs type msg foundIdx = some turns)
    (w : σ) :
    ((∃ w', setBranch agent type msg foundIdx w =
        some (replyText (results agent turns w), w')) ∧ WithinBuffers [] (results agent turns w) ∨
      setBranch agent type msg foundIdx w = none ∧
        (¬ WithinBuffers [] (results agent turns w) ∨ ∃ turn ∈ turns, Unreadable agent turn)) ∧
    (WithinBuffers [] (results agent turns w) ↔
      (∀ r ∈ results agent turns w, (resultText r).length < 128) ∧
        (replyText (results agent turns w)).length < 1024) ∧
    ((∀ (τ : Type) (agent' : Agent τ) (w' : τ),
        (∀ key, callsSetFunc agent' key = callsSetFunc agent key) →
        WithinBuffers [] (results agent' turns w')) ↔ FitsAnyReply (calledKeys agent turns)) := by
  have hiff : ∀ rs, WithinBuffers [] rs ↔
      (∀ r ∈ rs, (resultText r).length < 128) ∧ (replyText rs).length < 1024 := by
    intro rs
    simpa using @withinBuffers_iff [] (by decide) rs
  refine ⟨?_, hiff _, ?_, ?_⟩
  · rw [setBranch_turns agent type hn, hturns, Option.bind_some]
    exact runTurns_eq agent turns [] w
  · intro h
    have hsame : ∀ key, callsSetFunc (longestResults agent) key = callsSetFunc agent key := by
      intro key
      rw [callsSetFunc, longestResults_find, Option.isSome_map]
      rfl
    have hlong := (hiff _).mp (h σ (longestResults agent) w hsame)
    rwa [longestResults_results, longest_length] at hlong
  · intro hfits τ agent' w' hsame
    have hkeys : (results agent' turns w').map Prod.fst = calledKeys agent turns := by
      rw [results_keys, calledKeys_congr hsame]
    refine (hiff _).mpr ⟨?_, ?_⟩
    · intro r hr
      have hitem := hfits.item r.1 (hkeys ▸ List.mem_map_of_mem hr)
      exact Nat.lt_of_le_of_lt (resultText_length_le r) hitem
    · have htext := replyText_length_le (results agent' turns w')
      rw [hkeys] at htext
      exact Nat.lt_of_le_of_lt htext hfits.text

def repeated (n : ℕ) : Text := (List.replicate n ['k', ':', ';']).flatten

theorem repeated_length (n : ℕ) : (repeated n).length = n * 3 := by
  rw [repeated, List.length_flatten, List.map_replicate, List.sum_replicate_nat]
  rfl

theorem textTurns_repeated (n : ℕ) :
    textTurns none (repeated n) = List.replicate n ⟨['k', ':'], some (['k'], some [])⟩ := by
  induction n with
  | zero => exact textTurns_none rfl none
  | succ n ih =>
    have hcons : repeated (n + 1) = ['k', ':'] ++ ';' :: repeated n := by
      simp [repeated, List.replicate_succ]
    have hread : readPair (some (repeated n)) ['k', ':'] = some (['k'], some []) := rfl
    rw [hcons, textTurns_more (CString.nextToken_cons (by simp) (by decide) _), hread, ih]
    rfl

def setter : Agent Unit :=
  { myid := 1
    datainfoFuncMaps := [⟨['k'], none, some fun _ w => (BitVec.intMin 32, w)⟩]
    fileinfoFuncMaps := []
    datainfoValSize := 8
    writeFile := fun _ _ w => some w
    readFile := fun _ _ => none }

theorem nul_not_mem_repeated (n : ℕ) : nul ∉ repeated n := by
  intro hm
  obtain ⟨item, hitem, hm⟩ := List.mem_flatten.mp hm
  obtain rfl := List.eq_of_mem_replicate hitem
  revert hm
  decide

theorem parsePairs_repeated (n : ℕ) : parsePairs .setSameValue (repeated n) 0 =
    some (List.replicate n ⟨['k', ':'], some (['k'], some [])⟩) := by
  rw [parsePairs_eq _ (nul_not_mem_repeated n), ← textTurns_repeated]
  rfl

theorem results_repeated (n : ℕ) :
    results setter (List.replicate n ⟨['k', ':'], some (['k'], some [])⟩) () =
      List.replicate n (['k'], BitVec.intMin 32) := by
  induction n with
  | zero => rfl
  | succ n ih =>
    rw [List.replicate_succ, List.replicate_succ, ← ih]
    rfl

theorem set_reply_fits_twice : ∃ w', setBranch setter .setSameValue (repeated 2) 0 () =
    some (replyText [(['k'], BitVec.intMin 32), (['k'], BitVec.intMin 32)], w') := by
  obtain ⟨hend, hlengths, -⟩ := set_reply_fits_iff setter (nul_not_mem_repeated 2)
    (parsePairs_repeated 2) ()
  rw [results_repeated] at hend hlengths
  rcases hend with hend | ⟨-, hout | ⟨turn, hturn, hunreadable⟩⟩
  · exact hend.1
  · exact absurd (hlengths.mpr (by decide)) hout
  · obtain rfl := List.eq_of_mem_replicate hturn
    rcases hunreadable with hcut | ⟨key, hcut, -⟩ <;> cases hcut

theorem repeated_key_overflows :
    (repeated 74).length = 222 ∧
    setBranch setter .setSameValue (repeated 74) 0 () = none ∧
    ∃ turns, parsePairs .setSameValue (repeated 74) 0 = some turns ∧
      ¬ WithinBuffers [] (results setter turns ()) := by
  have hout : ¬ WithinBuffers [] (List.replicate 74 (['k'], BitVec.intMin 32)) := by
    have hmap : List.replicate 74 (['k'], BitVec.intMin 32) =
        (List.replicate 74 ['k']).map fun key => (key, BitVec.intMin 32) :=
      (List.map_replicate ..).symm
    rw [withinBuffers_iff (by decide), List.nil_append, hmap, longest_length]
    intro hfits
    have htext := hfits.text
    simp at htext
  refine ⟨repeated_length 74, ?_, _, parsePairs_repeated 74, by rwa [results_repeated]⟩
  rw [setBranch_turns setter _ (nul_not_mem_repeated 74), parsePairs_repeated, Option.bind_some]
  rcases runTurns_eq setter (List.replicate 74 ⟨['k', ':'], some (['k'], some [])⟩) [] () with
    ⟨-, hin⟩ | ⟨hnone, -⟩
  · rw [results_repeated] at hin
    exact absurd hin hout
  · exact hnone

end SetReplies
