import RmtLibrary.AgentReplies
import RmtLibrary.GetReply
import RmtLibrary.ReplyCollection

/-! # Value lists as the caller reads them

`recv_reply` copies the text of a reply with `strncpy` into the `value_list` of an entry that
`malloc` gave. The copy pads a short text and writes no terminator behind a long one. -/
namespace ReplyStrings

open CString (Text Memory nul)
open DatainfoAgent
open DatainfoServer
open Idl (DataInfoReply)

variable {σ : Type}

/-- The field has a terminator and is the reply, or its first `CONFIG_KEY_STR_LEN` characters. -/
def ProperString (valueList : Memory) (reply : Text) : Prop :=
  valueList.length = configKeyStrLen + 1 ∧ nul ∈ valueList ∧
    CString.cstr valueList 0 = some (reply.take configKeyStrLen)

theorem strncpy_length {reply : Text} {block : Memory} {n : ℕ} (hblock : n ≤ block.length) :
    (CString.strncpy block reply n).length = block.length := by
  simp only [CString.strncpy, List.length_append, List.length_take, List.length_replicate,
    List.length_drop]
  omega

/-- From the limit on no terminator is written, and the last character stays as it was. -/
theorem strncpy_long {reply : Text} {block : Memory} {n : ℕ} {last : Char}
    (hlen : n ≤ reply.length) (hblock : block.length = n + 1) (hlast : block[n]? = some last) :
    CString.strncpy block reply n = reply.take n ++ [last] := by
  obtain ⟨hlt, hget⟩ := List.getElem?_eq_some_iff.mp hlast
  have hpad : n - reply.length = 0 := by omega
  rw [CString.strncpy, hpad, List.replicate_zero, List.append_nil, List.drop_eq_getElem_cons hlt,
    hget, List.drop_of_length_le (by omega)]

/-- What is left in the field is a proper string if and only if the reply is shorter than the
limit or the last character of the field was the terminator before. -/
theorem properString_iff {reply : Text} (hn : nul ∉ reply) {block : Memory}
    (hblock : block.length = configKeyStrLen + 1) :
    ProperString (CString.strncpy block reply configKeyStrLen) reply ↔
      reply.length < configKeyStrLen ∨ block[configKeyStrLen]? = some nul := by
  have hlength : (CString.strncpy block reply configKeyStrLen).length = configKeyStrLen + 1 := by
    rw [strncpy_length (by omega), hblock]
  by_cases hshort : reply.length < configKeyStrLen
  · have hread : CString.cstr (CString.strncpy block reply configKeyStrLen) 0 = some reply :=
      CString.cstr_strncpy hn hshort
    obtain ⟨post, hsplit⟩ := CString.cstr_split hread
    refine ⟨fun _ => Or.inl hshort, fun _ => ⟨hlength, ?_, ?_⟩⟩
    · rw [hsplit]
      simp
    · rw [hread, List.take_of_length_le (Nat.le_of_lt hshort)]
  · obtain ⟨last, hlast⟩ : ∃ last, block[configKeyStrLen]? = some last :=
      ⟨_, List.getElem?_eq_getElem (by omega)⟩
    have hnt : nul ∉ reply.take configKeyStrLen := fun hm => hn (List.mem_of_mem_take hm)
    rw [ProperString, hlength, strncpy_long (by omega) hblock hlast, hlast, Option.some.injEq]
    constructor
    · rintro ⟨-, hterm, -⟩
      rcases List.mem_append.mp hterm with hterm | hterm
      · exact absurd hterm hnt
      · exact Or.inr (List.mem_singleton.mp hterm).symm
    · rintro (h | rfl)
      · exact absurd h hshort
      · exact ⟨rfl, by simp, CString.cstr_after hnt [] []⟩

/-- When `recv_reply` stores a reply of the GET branch, the field of its entry is a proper string
if and only if the reply is shorter than `CONFIG_KEY_STR_LEN` or the last character of the field
happened to be zero. -/
theorem value_list_proper_iff {agent : Agent σ} {keyList : Text} {w w' : σ} {msg : DataInfoReply}
    (hreply : getBranch agent keyList w = some (msg.msg, w')) {replys : ReplyData}
    (hfor : ReplyCollection.isFor replys.req msg = true) {entry : ReplyEntry}
    (hentry : replys.list[replys.num]? = some entry)
    (hblock : entry.valueList.length = configKeyStrLen + 1) :
    ∃ replys' entry', recvReply msg replys = some (replys', 0) ∧
      replys'.list[replys.num]? = some entry' ∧ entry'.deviceID = msg.deviceID ∧
      (ProperString entry'.valueList msg.msg ↔
        msg.msg.length < configKeyStrLen ∨ entry.valueList[configKeyStrLen]? = some nul) := by
  have hn := AgentReplies.getBranch_nul_free hreply
  obtain ⟨hlt, -⟩ := List.getElem?_eq_some_iff.mp hentry
  exact ⟨_, _, ReplyCollection.recvReply_own hfor hentry, List.getElem?_set_self hlt, rfl,
    properString_iff hn hblock⟩

def reporter (n : ℕ) : Agent Unit :=
  { myid := 1
    datainfoFuncMaps := [⟨['k'], some fun w => (List.replicate n 'a', w), none⟩]
    fileinfoFuncMaps := []
    datainfoValSize := 5000
    writeFile := fun _ _ w => some w
    readFile := fun _ _ => none }

theorem reporter_reply {n : ℕ} (hn : n < 5000) : getBranch (reporter n) ['k'] () =
    some (['k', ':'] ++ List.replicate n 'a' ++ [';'], ()) := by
  have hkeys : CString.pieces ';' ['k'] = [['k']] := by decide
  have hcalls : GetReply.callGetFuncs (reporter n) (CString.pieces ';' ['k']) () =
      ([(['k'], List.replicate n 'a')], ()) := by
    rw [hkeys]
    rfl
  have htext : GetReply.replyText [(['k'], List.replicate n 'a')] =
      ['k', ':'] ++ List.replicate n 'a' ++ [';'] := by simp [GetReply.pairText]
  have hbranch := @GetReply.getBranch_eq _ (reporter n) ['k'] () (by decide)
  rw [hcalls, htext] at hbranch
  apply hbranch
  · intro pair hp
    obtain rfl := List.mem_singleton.mp hp
    refine ⟨?_, by simpa [reporter] using hn⟩
    intro hm
    exact absurd (List.eq_of_mem_replicate hm) (by decide)
  · simp only [List.length_append, List.length_cons, List.length_nil, List.length_replicate]
    omega

def askOne : ReplyData :=
  ⟨getInfoRequest [1] ['k'] 7, [⟨0, List.replicate (configKeyStrLen + 1) 'x'⟩], 0⟩

theorem askOne_entry : askOne.list[askOne.num]? =
    some ⟨0, List.replicate (configKeyStrLen + 1) 'x'⟩ := rfl

theorem value_list_proper_below : ∃ replys' entry',
    recvReply ⟨1, .get, 7, ['k', ':'] ++ List.replicate 4092 'a' ++ [';'], []⟩ askOne =
      some (replys', 0) ∧ replys'.list[0]? = some entry' ∧
    ProperString entry'.valueList (['k', ':'] ++ List.replicate 4092 'a' ++ [';']) := by
  obtain ⟨replys', entry', hrecv, hentry', -, hiff⟩ :=
    @value_list_proper_iff _ _ _ _ _ ⟨1, .get, 7, _, []⟩ (reporter_reply (n := 4092) (by decide))
      askOne rfl _ askOne_entry (List.length_replicate ..)
  refine ⟨replys', entry', hrecv, hentry', hiff.mpr (Or.inl ?_)⟩
  simp only [List.length_append, List.length_cons, List.length_nil, List.length_replicate]
  decide

theorem value_list_unterminated :
    getBranch (reporter 4093) ['k'] () =
      some (['k', ':'] ++ List.replicate 4093 'a' ++ [';'], ()) ∧
    ∃ replys' entry',
      recvReply ⟨1, .get, 7, ['k', ':'] ++ List.replicate 4093 'a' ++ [';'], []⟩ askOne =
        some (replys', 0) ∧ replys'.list[0]? = some entry' ∧
      ¬ ProperString entry'.valueList (['k', ':'] ++ List.replicate 4093 'a' ++ [';']) := by
  have hreply := reporter_reply (n := 4093) (by decide)
  refine ⟨hreply, _, _, ReplyCollection.recvReply_own rfl askOne_entry, rfl, ?_⟩
  rw [properString_iff (AgentReplies.getBranch_nul_free hreply) (List.length_replicate ..)]
  simp only [List.length_append, List.length_cons, List.length_nil, List.length_replicate,
    List.getElem?_replicate]
  decide

end ReplyStrings
