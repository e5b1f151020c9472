import RmtLibrary.SetItems

/-! # Values of a SET_SAME_VALUE request

Every set function should get the part of its own item behind the first colon. The parse computes
where a value starts from the length of the key, so an item without a colon hands on the text of
the item behind it, and one of colons only makes `strlen` read `NULL`. -/
namespace SetParsing

open CString (Text nul nextToken pieces)
open DatainfoAgent
open SetItems

variable {σ : Type}

def callsSetFunc (agent : Agent σ) (key : Text) : Bool :=
  ((agent.find key).bind DatainfoFunc.setFunc).isSome

def OwnValue (pair : Text) (value : Option Text) : Prop :=
  ∃ key own, ':' ∉ key ∧ pair = key ++ ':' :: own ∧ value = some own

/-- No string function is applied to `NULL`, and every call gets its own value. -/
structure ParsedWithin (agent : Agent σ) (turns : List Turn) : Prop where
  noNull : ∀ turn ∈ turns, turn.cut ≠ none
  ownValue : ∀ turn ∈ turns, ∀ key value, turn.cut = some (key, value) →
    callsSetFunc agent key = true → OwnValue turn.pair value

/-- Not every character is a colon, and an item whose key has a set function has a colon that is
not its first character. -/
def WellFormed (agent : Agent σ) (item : Text) : Prop :=
  (∃ c ∈ item, c ≠ ':') ∧ ∀ key rest, nextToken ':' item = some (key, rest) →
    callsSetFunc agent key = true → item.head? ≠ some ':' ∧ ':' ∈ item

theorem readPair_null_iff (behind : Option Text) (pair : Text) :
    readPair behind pair = none ↔ ∀ c ∈ pair, c = ':' := by
  rw [readPair, Option.map_eq_none_iff]
  rcases CString.nextToken_cases ':' pair with
    ⟨hds, hnone⟩ | ⟨ds, key, -, hne, hd, ⟨rfl, hlast⟩ | ⟨rest, rfl, hmore⟩⟩
  · exact ⟨fun _ => hds, fun _ => hnone⟩
  all_goals
    obtain ⟨c, cs, rfl⟩ := List.exists_cons_of_ne_nil hne
    have hc : c ≠ ':' := fun he => hd (he ▸ List.mem_cons_self)
    constructor
    · intro h
      simp_all
    · intro hall
      exact absurd (hall c (by simp)) hc

/-- Behind a leading colon the computed pointer is too far on for the item's own value. -/
theorem not_ownValue_of_delims {ds key x : Text} (hds : ∀ c ∈ ds, c = ':') (hne : ds ≠ [])
    (hkey : key ≠ []) :
    ¬ OwnValue (ds ++ key ++ x) (some ((ds ++ key).drop (key.length + 1))) := by
  rintro ⟨front, own, hfront, hpair, hvalue⟩
  obtain ⟨d, ds, rfl⟩ := List.exists_cons_of_ne_nil hne
  obtain rfl : d = ':' := hds d List.mem_cons_self
  have hnil : front = [] := by
    cases front with
    | nil => rfl
    | cons c front =>
      rw [List.cons_append, List.cons_append, List.cons_append] at hpair
      obtain ⟨rfl, -⟩ := List.cons.inj hpair
      exact absurd List.mem_cons_self hfront
  have hpos := List.length_pos_of_ne_nil hkey
  have hlen := congrArg List.length hpair
  have hdrop := congrArg List.length (Option.some.inj hvalue)
  rw [hnil] at hlen
  simp only [List.length_append, List.length_cons, List.length_drop, List.length_nil] at hlen hdrop
  omega

theorem readPair_own_iff {behind : Option Text} {pair key : Text} {value : Option Text}
    (h : readPair behind pair = some (key, value)) :
    OwnValue pair value ↔ pair.head? ≠ some ':' ∧ ':' ∈ pair := by
  have hhead : ∀ {k x : Text}, k ≠ [] → ':' ∉ k → (k ++ x).head? ≠ some ':' := by
    intro k x hne hk
    obtain ⟨c, cs, rfl⟩ := List.exists_cons_of_ne_nil hne
    simp only [List.cons_append, List.head?_cons, ne_eq, Option.some.injEq]
    rintro rfl
    exact hk List.mem_cons_self
  have hcolons : ∀ {ds x : Text}, (∀ c ∈ ds, c = ':') → ds ≠ [] →
      (ds ++ x).head? = some ':' := by
    intro ds x hds hne
    obtain ⟨d, ds, rfl⟩ := List.exists_cons_of_ne_nil hne
    rw [hds d List.mem_cons_self]
    rfl
  rcases CString.nextToken_cases ':' pair with
    ⟨hds, -⟩ | ⟨ds, k, hds, hne, hd, ⟨rfl, hlast⟩ | ⟨rest, rfl, hmore⟩⟩
  · rw [(readPair_null_iff behind pair).mpr hds] at h
    cases h
  · have hread := readPair_eq (x := []) hds hne hd (by simpa using hlast) behind
    rw [List.append_nil, h, Option.some.injEq, Prod.mk.injEq] at hread
    obtain ⟨rfl, rfl⟩ := hread
    by_cases he : ds = []
    · -- the item is its key, and the value is whatever lies behind it
      subst he
      rw [List.nil_append]
      constructor
      · rintro ⟨front, own, -, hpair, -⟩
        exact absurd (by rw [hpair]; simp) hd
      · exact fun hown => absurd hown.2 hd
    · rw [if_neg he]
      constructor
      · intro hown
        have hfalse := not_ownValue_of_delims (x := []) hds he hne
        rw [List.append_nil] at hfalse
        exact absurd hown hfalse
      · exact fun hown => absurd (hcolons hds he) hown.1
  · have hread := readPair_eq (x := ':' :: rest) hds hne hd hmore behind
    rw [h, Option.some.injEq, Prod.mk.injEq] at hread
    obtain ⟨rfl, rfl⟩ := hread
    by_cases he : ds = []
    · subst he
      constructor
      · exact fun _ => ⟨hhead hne hd, by simp⟩
      · exact fun _ => ⟨key, rest, hd, rfl, rfl⟩
    · rw [if_neg he]
      constructor
      · exact fun hown => absurd hown (not_ownValue_of_delims hds he hne)
      · intro hown
        rw [List.append_assoc] at hown
        exact absurd (hcolons hds he) hown.1

theorem turn_iff (agent : Agent σ) (behind : Option Text) (item : Text) :
    (readPair behind item ≠ none ∧ ∀ key value, readPair behind item = some (key, value) →
      callsSetFunc agent key = true → OwnValue item value) ↔ WellFormed agent item := by
  rw [Ne, readPair_null_iff]
  have hsome : (¬ ∀ c ∈ item, c = ':') ↔ ∃ c ∈ item, c ≠ ':' := by simp
  rw [hsome]
  apply and_congr_right
  intro _
  constructor
  · intro h key rest htok hcalls
    obtain ⟨value, hread⟩ : ∃ value, readPair behind item = some (key, value) :=
      ⟨_, by rw [readPair, htok]; rfl⟩
    exact (readPair_own_iff hread).mp (h key value hread hcalls)
  · intro h key value hread hcalls
    obtain ⟨⟨key', rest⟩, htok, heq⟩ := Option.map_eq_some_iff.mp hread
    obtain ⟨rfl, -⟩ := Prod.mk.inj heq
    exact (readPair_own_iff hread).mpr (h _ rest htok hcalls)

theorem textTurns_pairs (behind : Option Text) (t : Text) :
    (textTurns behind t).map Turn.pair = pieces ';' t := by
  induction t using textTurns.induct with
  | case1 t hnone => rw [textTurns_none hnone, CString.pieces_of_nextToken, hnone]; rfl
  | case2 t pair hlast => rw [textTurns_last hlast, CString.pieces_of_nextToken, hlast]; rfl
  | case3 t pair rest hmore ih =>
    rw [textTurns_more hmore, CString.pieces_of_nextToken, hmore, List.map_cons, ih]
    rfl

theorem textTurns_cut {behind : Option Text} {t : Text} {turn : Turn}
    (h : turn ∈ textTurns behind t) : ∃ b, turn.cut = readPair b turn.pair := by
  induction t using textTurns.induct with
  | case1 t hnone => simp [textTurns_none hnone] at h
  | case2 t pair hlast =>
    rw [textTurns_last hlast, List.mem_singleton] at h
    exact ⟨_, by rw [h]⟩
  | case3 t pair rest hmore ih =>
    rw [textTurns_more hmore, List.mem_cons] at h
    rcases h with rfl | h
    · exact ⟨_, rfl⟩
    · exact ih h

theorem parsedWithin_iff (agent : Agent σ) (behind : Option Text) (t : Text) :
    ParsedWithin agent (textTurns behind t) ↔ ∀ item ∈ pieces ';' t, WellFormed agent item := by
  rw [← textTurns_pairs behind t, List.forall_mem_map]
  have hturn : ∀ turn ∈ textTurns behind t, WellFormed agent turn.pair ↔
      turn.cut ≠ none ∧ ∀ key value, turn.cut = some (key, value) →
        callsSetFunc agent key = true → OwnValue turn.pair value := by
    intro turn hm
    obtain ⟨b, hb⟩ := textTurns_cut hm
    rw [hb]
    exact (turn_iff agent b turn.pair).symm
  constructor
  · intro h turn hm
    exact (hturn turn hm).mpr ⟨h.noNull turn hm, h.ownValue turn hm⟩
  · intro h
    exact ⟨fun turn hm => ((hturn turn hm).mp (h turn hm)).1,
      fun turn hm => ((hturn turn hm).mp (h turn hm)).2⟩

/-- The branch runs the turns of its parse, and these read no `NULL` and hand on only own values
if and only if every item is well formed. -/
theorem set_values_own_iff (agent : Agent σ) {msg : Text} (hn : nul ∉ msg) (foundIdx : ℕ) :
    ∃ turns, parsePairs .setSameValue msg foundIdx = some turns ∧
      (∀ w, setBranch agent .setSameValue msg foundIdx w = runTurns agent turns ([], w)) ∧
      (ParsedWithin agent turns ↔ ∀ item ∈ pieces ';' msg, WellFormed agent item) := by
  have hparse : parsePairs .setSameValue msg foundIdx = some (textTurns none msg) := by
    rw [parsePairs_eq _ hn]
    rfl
  refine ⟨_, hparse, ?_, parsedWithin_iff agent none msg⟩
  intro w
  rw [setBranch_turns agent _ hn, hparse, Option.bind_some]

def keeper : Agent (List Text) :=
  let keep := fun value w => ((0 : BitVec 32), w ++ [value])
  { myid := 1
    datainfoFuncMaps := [⟨['a'], none, some keep⟩, ⟨['b'], none, some keep⟩]
    fileinfoFuncMaps := []
    datainfoValSize := 8
    writeFile := fun _ _ w => some w
    readFile := fun _ _ => none }

theorem set_values_own_two_items : ∃ turns,
    parsePairs .setSameValue ";a:1:2;;b:".toList 0 = some turns ∧ ParsedWithin keeper turns := by
  obtain ⟨turns, hturns, -, hiff⟩ :=
    @set_values_own_iff _ keeper ";a:1:2;;b:".toList (by decide) 0
  refine ⟨turns, hturns, hiff.mpr ?_⟩
  have hitems : pieces ';' ";a:1:2;;b:".toList = ["a:1:2".toList, "b:".toList] := by decide
  rw [hitems]
  intro item hm
  rcases List.mem_cons.mp hm with rfl | hm
  · exact ⟨⟨'a', by decide, by decide⟩, fun _ _ _ _ => ⟨by decide, by decide⟩⟩
  · obtain rfl := List.mem_singleton.mp hm
    exact ⟨⟨'b', by decide, by decide⟩, fun _ _ _ _ => ⟨by decide, by decide⟩⟩

/-- In `a;b:1` the set function of `a` gets the item of `b`, and an item of colons has no key. -/
theorem value_of_next_item :
    setBranch keeper .setSameValue "a;b:1".toList 0 [] =
      some ("a:0;b:0;".toList, ["b:1".toList, "1".toList]) ∧
    (¬ ∃ turns, parsePairs .setSameValue "a;b:1".toList 0 = some turns ∧
      ParsedWithin keeper turns) ∧
    ¬ ∃ turns, parsePairs .setSameValue ":".toList 0 = some turns ∧
      ParsedWithin keeper turns := by
  have hnext : parsePairs .setSameValue "a;b:1".toList 0 =
      some [⟨['a'], some (['a'], some "b:1".toList)⟩,
        ⟨"b:1".toList, some (['b'], some ['1'])⟩] := by decide
  have hnull : parsePairs .setSameValue ":".toList 0 = some [⟨[':'], none⟩] := by decide
  refine ⟨by decide, ?_, ?_⟩
  · rintro ⟨turns, hturns, hown⟩
    obtain rfl := Option.some.inj (hnext.symm.trans hturns)
    obtain ⟨key, own, -, hpair, -⟩ :=
      hown.ownValue _ List.mem_cons_self ['a'] _ rfl (by decide)
    have hpair' : ['a'] = key ++ ':' :: own := hpair
    have hcolon : ':' ∈ ['a'] := by
      rw [hpair']
      simp
    simp at hcolon
  · rintro ⟨turns, hturns, hown⟩
    obtain rfl := Option.some.inj (hnull.symm.trans hturns)
    exact hown.noNull _ List.mem_cons_self rfl

end SetParsing
