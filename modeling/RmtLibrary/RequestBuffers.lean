import RmtLibrary.FileTransfer
import RmtLibrary.SetRoundTrip

/-! # The buffers of the requests

`datainfo_server_set_info` joins its value lists in a block of 1024 characters for each device,
the file calls join two names in one block of 1024. -/
namespace RequestBuffers

open CString (Text)
open DatainfoServer
open FileTransfer

/-- After every `strcat`, and before the first, text and terminator lie in the block. -/
def AppendsFit (capacity : ℕ) (texts : List Text) : Prop :=
  ∀ done, done <+: texts → done.flatten.length + 1 ≤ capacity

def valueTexts (devList : List DataInfo) : List Text :=
  devList.flatMap fun dev => [dev.valueList, ['|']]

def SetInfoFits (devList : List DataInfo) : Prop :=
  ∃ capacity, setInfoCapacity devList.length = some capacity ∧
    AppendsFit capacity (valueTexts devList)

/-- The text of a file request fits `message[1024]`, or the call returns -1. -/
def TransferFits (callbackname filename : Text)
    (r : Option (FileServer × ℤ × Option Idl.DataInfoRequest)) : Prop :=
  (∃ s req, r = some (s, -1, req)) ∨ AppendsFit 1024 [callbackname, [';'], filename]

theorem appendsFit_iff (capacity : ℕ) (texts : List Text) :
    AppendsFit capacity texts ↔ texts.flatten.length + 1 ≤ capacity := by
  constructor
  · intro h
    exact h texts List.prefix_rfl
  · rintro h done ⟨later, rfl⟩
    rw [List.flatten_append, List.length_append] at h
    omega

theorem valueTexts_flatten (devList : List DataInfo) :
    (valueTexts devList).flatten = SetRoundTrip.joined devList := by
  induction devList with
  | nil => rfl
  | cons dev devList ih =>
    rw [valueTexts, List.flatMap_cons, List.flatten_append, ← valueTexts, ih]
    simp [SetRoundTrip.joined]

theorem joined_length (devList : List DataInfo) : (SetRoundTrip.joined devList).length =
    (devList.map fun dev => dev.valueList.length).sum + devList.length := by
  induction devList with
  | nil => rfl
  | cons dev devList ih =>
    simp only [SetRoundTrip.joined, List.flatMap_cons, List.length_append, List.length_cons,
      List.length_nil, List.map_cons, List.sum_cons] at ih ⊢
    omega

theorem setInfoFits_iff (devList : List DataInfo) : SetInfoFits devList ↔
    1024 * devList.length < 2 ^ 31 ∧
      (devList.map fun dev => dev.valueList.length).sum + devList.length + 1 ≤
        1024 * devList.length := by
  rw [← joined_length, ← valueTexts_flatten]
  constructor
  · rintro ⟨capacity, hcap, hfit⟩
    rw [setInfoCapacity] at hcap
    split at hcap
    · next hint =>
      obtain rfl := Option.some.inj hcap
      exact ⟨hint, (appendsFit_iff _ _).mp hfit⟩
    · cases hcap
  · rintro ⟨hint, hfit⟩
    exact ⟨_, if_pos hint, (appendsFit_iff _ _).mpr hfit⟩

theorem setInfoBuffer_isSome_iff (devList : List DataInfo) :
    (setInfoBuffer devList).isSome ↔ SetInfoFits devList := by
  rw [setInfoFits_iff, ← joined_length, SetRoundTrip.setInfoBuffer_eq]
  split
  · next hfit => exact ⟨fun _ => hfit, fun _ => rfl⟩
  · next hlong => exact ⟨fun hsome => absurd hsome (by simp), fun hfit => absurd hfit hlong⟩

theorem transferTexts_length (callbackname filename : Text) :
    [callbackname, [';'], filename].flatten.length + 1 =
      callbackname.length + filename.length + 2 := by
  simp
  omega

theorem transferMessage_isSome_iff (callbackname filename : Text) :
    (transferMessage callbackname filename).isSome ↔
      AppendsFit 1024 [callbackname, [';'], filename] := by
  rw [appendsFit_iff, transferTexts_length, transferMessage_eq]
  split
  · next hfit => exact ⟨fun _ => hfit, fun _ => rfl⟩
  · next hlong => simpa using hlong

/-- Either file call is refused while another transfer runs, and only then. -/
theorem transferFits_iff (callbackname filename : Text) {s : FileServer}
    {r : Option (FileServer × ℤ × Option Idl.DataInfoRequest)}
    (hbusy : s.gFileTransferStat.status ≠ 0 → r = some (s, -1, none))
    (hcases : ∀ out, r = some out → out.2.1 = -1 → s.gFileTransferStat.status ≠ 0) :
    TransferFits callbackname filename r ↔
      s.gFileTransferStat.status ≠ 0 ∨ callbackname.length + filename.length + 2 ≤ 1024 := by
  rw [TransferFits, appendsFit_iff, transferTexts_length]
  apply or_congr_left
  constructor
  · rintro ⟨s', req, hr⟩
    exact hcases _ hr rfl
  · exact fun h => ⟨s, none, hbusy h⟩

/-- The text of a SET request fits its buffer if and only if the product is an `int` and the
lengths of the value lists, a bar for each and the terminator come to at most 1024 for each
device; the text of a file request fits if and only if the names, the separator and the
terminator come to at most 1024, or the call is refused. -/
theorem request_encoding_fits_iff (devList : List DataInfo) (callbackname filename : Text) :
    (SetInfoFits devList ↔
      1024 * devList.length < 2 ^ 31 ∧
        (devList.map fun dev => dev.valueList.length).sum + devList.length + 1 ≤
          1024 * devList.length) ∧
    (∀ idList pFile randomSeq now s,
      TransferFits callbackname filename
        (datainfoServerSendFile idList callbackname filename pFile randomSeq now s) ↔
      s.gFileTransferStat.status ≠ 0 ∨ callbackname.length + filename.length + 2 ≤ 1024) ∧
    (∀ id randomSeq now s,
      TransferFits callbackname filename
        (datainfoServerRecvFile id callbackname filename randomSeq now s) ↔
      s.gFileTransferStat.status ≠ 0 ∨ callbackname.length + filename.length + 2 ≤ 1024) := by
  refine ⟨setInfoFits_iff devList, ?_, ?_⟩
  · intro idList pFile randomSeq now s
    apply transferFits_iff
    · exact fun hbusy => if_pos hbusy
    · intro out hout hret
      rcases sendFile_cases hout with ⟨hbusy, -⟩ | ⟨-, message, -, -, hr⟩
      · exact hbusy
      · rw [hr] at hret
        cases hret
  · intro id randomSeq now s
    apply transferFits_iff
    · exact fun hbusy => if_pos hbusy
    · intro out hout hret
      rcases recvFile_cases hout with ⟨hbusy, -⟩ | ⟨-, message, -, -, hr⟩
      · exact hbusy
      · rw [hr] at hret
        cases hret

/-- One device with 1023 characters, no device, and two names of 1023 characters together. -/
theorem request_overflows :
    ¬ SetInfoFits [⟨1, List.replicate 1023 'a'⟩] ∧ ¬ SetInfoFits [] ∧
    ¬ TransferFits ['c'] (List.replicate 1022 'f')
      (datainfoServerSendFile [1] ['c'] (List.replicate 1022 'f') [] 7 0 datainfoServerInit) := by
  refine ⟨?_, ?_, ?_⟩
  · simp only [setInfoFits_iff, List.map_cons, List.map_nil, List.length_replicate,
      List.sum_cons, List.sum_nil, List.length_cons, List.length_nil]
    omega
  · simp [setInfoFits_iff]
  · rintro (⟨s, req, hr⟩ | hfit)
    · rcases sendFile_cases hr with ⟨hbusy, -⟩ | ⟨-, message, -, -, hr⟩
      · exact hbusy rfl
      · cases hr
    · rw [appendsFit_iff, transferTexts_length, List.length_replicate, List.length_singleton]
        at hfit
      omega

end RequestBuffers
