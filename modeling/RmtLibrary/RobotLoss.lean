import RmtLibrary.DdsTransport
import RmtLibrary.DeviceRegistry

/-! # Loss events of robots

A bridge reports a lost robot by its ID, and the server removes the first device whose `devinfo`
contains that ID. Where `devinfo` is the robot ID itself, this is the lost robot only if no ID in
front of it contains its own. -/
namespace RobotLoss

open CString (Text)
open DdsTransport (Sample)
open DevinfoServer
open DeviceRegistry (HoldsTable)
open GuardedExecution
open Idl (QosEvent)

def callbackDataAvailable (gRobotIdDeleteCallback : Option (Text → Registry → Option Registry))
    (samples : List (Sample QosEvent)) (s : Registry) :
    Option (List (Sample QosEvent) × Registry) :=
  DdsTransport.tryRecv (fun msg s =>
    match gRobotIdDeleteCallback with
    | none => some (s, 0)
    | some callback => (callback msg.robotId s).map (·, 0)) samples s

def lossStep (s : Registry) (e : QosEvent) : Option Registry :=
  devinfoServerDelDeviceCallbackRobotId e.robotId s

theorem callbackDataAvailable_eq (events : List QosEvent) (s : Registry) :
    callbackDataAvailable (some devinfoServerDelDeviceCallbackRobotId)
        (events.map fun e => ⟨true, e⟩) s =
      (runEvents lossStep s events).map fun s' => ([], s') := by
  induction events generalizing s with
  | nil => rfl
  | cons e events ih =>
    rw [List.map_cons, callbackDataAvailable, DdsTransport.tryRecv, if_pos rfl, runEvents]
    simp only [lossStep]
    cases devinfoServerDelDeviceCallbackRobotId e.robotId s with
    | none => rfl
    | some s' => exact ih s'

def robotIds (t : List DevList) : List Text := t.map fun dev => dev.info.devinfo

def removeRobot (robotId : Text) (t : List DevList) : List DevList :=
  t.filter fun dev => dev.info.devinfo ≠ robotId

/-- The event removes the device of its robot ID, and leaves the others as they are. -/
def RemovesOwn (s : Registry) (e : QosEvent) : Prop :=
  ∃ s', lossStep s e = some s' ∧ ∀ t, HoldsTable s t → HoldsTable s' (removeRobot e.robotId t)

/-- In the order of the list, no ID that contains `robotId` comes before `robotId` itself. -/
def OwnFirst (robotId : Text) : List Text → Prop
  | [] => True
  | id :: ids => id = robotId ∨ ¬ robotId <:+: id ∧ OwnFirst robotId ids

instance OwnFirst.decidable (robotId : Text) : (ids : List Text) →
    Decidable (OwnFirst robotId ids)
  | [] => isTrue trivial
  | id :: ids =>
    have := OwnFirst.decidable robotId ids
    inferInstanceAs (Decidable (id = robotId ∨ ¬ robotId <:+: id ∧ OwnFirst robotId ids))

theorem nodup_removeRobot {t : List DevList} (h : (robotIds t).Nodup) (robotId : Text) :
    (robotIds (removeRobot robotId t)).Nodup := h.sublist (List.filter_sublist.map _)

theorem removeRobot_of_notMem {t : List DevList} {robotId : Text} (h : robotId ∉ robotIds t) :
    removeRobot robotId t = t := by
  rw [removeRobot, List.filter_eq_self]
  intro dev hdev
  simp only [ne_eq, decide_not, Bool.not_eq_true', decide_eq_false_iff_not]
  rintro rfl
  exact h (List.mem_map_of_mem hdev)

theorem eraseP_eq_removeRobot_iff {t : List DevList} (hd : (robotIds t).Nodup) (robotId : Text) :
    t.eraseP (hasRobotId robotId) = removeRobot robotId t ↔ OwnFirst robotId (robotIds t) := by
  induction t with
  | nil => simp [removeRobot, robotIds, OwnFirst]
  | cons dev t ih =>
    obtain ⟨hnew, hd⟩ := List.nodup_cons.mp hd
    have hmatch : hasRobotId robotId dev = true ↔ robotId <:+: dev.info.devinfo :=
      CString.strstr_isSome _ _
    have hcons : OwnFirst robotId (robotIds (dev :: t)) ↔
        dev.info.devinfo = robotId ∨
          ¬ robotId <:+: dev.info.devinfo ∧ OwnFirst robotId (robotIds t) := Iff.rfl
    rw [hcons]
    by_cases hown : dev.info.devinfo = robotId
    · -- its own device comes first
      subst hown
      have hkeep : removeRobot dev.info.devinfo (dev :: t) = t := by
        rw [removeRobot, List.filter_cons_of_neg (by simp)]
        exact removeRobot_of_notMem hnew
      rw [List.eraseP_cons_of_pos (hmatch.mpr (List.infix_refl _)), hkeep]
      simp
    · have hskip : removeRobot robotId (dev :: t) = dev :: removeRobot robotId t :=
        List.filter_cons_of_pos (by simpa using hown)
      rw [hskip]
      by_cases hin : robotId <:+: dev.info.devinfo
      · -- another device is hit
        rw [List.eraseP_cons_of_pos (hmatch.mpr hin)]
        simp only [hown, hin, not_true, false_and, or_false, iff_false]
        intro heq
        refine hnew (List.mem_map_of_mem ?_)
        rw [heq]
        exact List.mem_cons_self
      · rw [List.eraseP_cons_of_neg (by rwa [hmatch]), List.cons_inj_right, ih hd]
        simp [hown, hin]

theorem removesOwn_iff {s : Registry} {t : List DevList} (h : HoldsTable s t)
    (hd : (robotIds t).Nodup) (e : QosEvent) :
    RemovesOwn s e ↔ OwnFirst e.robotId (robotIds t) := by
  obtain ⟨s', hs, ht⟩ := DeviceRegistry.delFirst_table h (hasRobotId e.robotId)
  rw [← eraseP_eq_removeRobot_iff hd]
  constructor
  · rintro ⟨s'', hs'', hown⟩
    obtain rfl : s' = s'' := Option.some.inj (hs.symm.trans hs'')
    exact ht.unique (hown t h)
  · intro heq
    refine ⟨s', hs, ?_⟩
    intro t' h'
    obtain rfl := h.unique h'
    rwa [← heq]

/-- Over any run of loss events, each removes its own robot and nothing else exactly if at each
of them the lost ID is the first in the list that contains it. -/
theorem losses_remove_own_iff {s : Registry} {t : List DevList} (h : HoldsTable s t)
    (hd : (robotIds t).Nodup) (events : List QosEvent) :
    callbackDataAvailable (some devinfoServerDelDeviceCallbackRobotId)
        (events.map fun e => ⟨true, e⟩) s =
      (runEvents lossStep s events).map (fun s' => ([], s')) ∧
    (AllSteps lossStep RemovesOwn s events ↔
      RunsWithin (fun t e => removeRobot e.robotId t) (fun t e => OwnFirst e.robotId (robotIds t))
        t events) := by
  refine ⟨callbackDataAvailable_eq events s, ?_⟩
  apply allSteps_iff_runsWithin (R := fun s t => HoldsTable s t ∧ (robotIds t).Nodup)
  · exact fun s t e hst => removesOwn_iff hst.1 hst.2 e
  · intro s t e hst hown
    obtain ⟨s', hs, hremove⟩ := (removesOwn_iff hst.1 hst.2 e).mpr hown
    exact ⟨s', hs, hremove t hst.1, nodup_removeRobot hst.2 e.robotId⟩
  · exact ⟨h, hd⟩

def robot (id : ℕ) (robotId : Text) : DevList :=
  ⟨⟨id, [], [], [], [], [], robotId⟩, .done, emptyResult, id⟩

theorem holds_robots (robotId robotId' : Text) :
    ∃ s, HoldsTable s [robot 2 robotId', robot 1 robotId] := by
  let chunk : Chunk := ⟨HeapChain.Malloc.bump, .done, emptyResult⟩
  obtain ⟨s, -, h⟩ := DeviceRegistry.addDevice_table DeviceRegistry.holdsTable_init chunk
    ⟨1, [], [], [], [], [], robotId⟩ 1
  obtain ⟨s', -, h'⟩ := DeviceRegistry.addDevice_table h chunk ⟨2, [], [], [], [], [], robotId'⟩ 2
  exact ⟨s', h'⟩

def lost (robotId : Text) : QosEvent := ⟨[], robotId, 0⟩

/-- Robot `r10` is lost before robot `r1`, whose ID its own contains. -/
theorem losses_remove_own_longer_first : ∃ s, HoldsTable s
      [robot 2 ['r', '1', '0'], robot 1 ['r', '1']] ∧
    AllSteps lossStep RemovesOwn s [lost ['r', '1', '0'], lost ['r', '1']] := by
  obtain ⟨s, h⟩ := holds_robots ['r', '1'] ['r', '1', '0']
  exact ⟨s, h, (losses_remove_own_iff h (by decide) _).2.mpr (by decide)⟩

/-- The loss of robot `r1` removes robot `r10`, which joined later. -/
theorem loss_removes_other_robot : ∃ s t, HoldsTable s t ∧ (robotIds t).Nodup ∧
    (∀ id ∈ robotIds t, id ≠ []) ∧ ¬ AllSteps lossStep RemovesOwn s [lost ['r', '1']] ∧
      ∃ s', lossStep s (lost ['r', '1']) = some s' ∧ HoldsTable s' [robot 1 ['r', '1']] := by
  obtain ⟨s, h⟩ := holds_robots ['r', '1'] ['r', '1', '0']
  obtain ⟨s', hs, h'⟩ := DeviceRegistry.delFirst_table h (hasRobotId ['r', '1'])
  refine ⟨s, _, h, by decide, by decide, ?_, s', hs, h'⟩
  rintro ⟨hown, -⟩
  have hfirst := (removesOwn_iff h (by decide) (lost ['r', '1'])).mp hown
  revert hfirst
  decide

end RobotLoss
