import Mathlib.Data.List.Basic
import Mathlib.Data.List.Infix

/-! # Lexical resolution of paths

A path is walked component by component without a look at the file system. What it comes to is a
place: the root or the current directory, a number of levels above it, and the names below. -/
namespace LexicalPath

variable {α : Type}

inductive Step (α : Type) where
  | stay
  | up
  | down (name : α)
  deriving DecidableEq, Repr

/-- There is nothing above the root, so an absolute place keeps its number of levels. -/
structure Place (α : Type) where
  absolute : Bool
  ups : ℕ
  names : List α
  deriving DecidableEq, Repr

def start (absolute : Bool) : Place α := ⟨absolute, 0, []⟩

def Place.move (place : Place α) : Step α → Place α
  | .stay => place
  | .up =>
    match place.names with
    | [] => if place.absolute then place else { place with ups := place.ups + 1 }
    | name :: names => { place with names := (name :: names).dropLast }
  | .down name => { place with names := place.names ++ [name] }

def Place.walk (place : Place α) (steps : List (Step α)) : Place α := steps.foldl Place.move place

structure Place.Inside (file dir : Place α) : Prop where
  absolute : file.absolute = dir.absolute
  ups : file.ups = dir.ups
  names : dir.names <+: file.names

/-- A relative place seen from another one: it first takes names away, then adds its own. -/
def Place.join (place relative : Place α) : Place α where
  absolute := place.absolute
  ups := if place.absolute then place.ups
    else place.ups + (relative.ups - place.names.length)
  names := place.names.take (place.names.length - relative.ups) ++ relative.names

theorem Place.join_start (place : Place α) : place.join (start false) = place := by
  simp [Place.join, start]

theorem Place.walk_append (place : Place α) (steps steps' : List (Step α)) :
    place.walk (steps ++ steps') = (place.walk steps).walk steps' :=
  List.foldl_append

theorem Place.walk_singleton (place : Place α) (step : Step α) :
    place.walk [step] = place.move step := rfl

theorem Place.move_absolute (place : Place α) (step : Step α) :
    (place.move step).absolute = place.absolute := by
  obtain ⟨absolute, ups, names⟩ := place
  cases step with
  | stay => rfl
  | up => cases names <;> cases absolute <;> rfl
  | down name => rfl

theorem Place.walk_absolute (place : Place α) (steps : List (Step α)) :
    (place.walk steps).absolute = place.absolute := by
  induction steps generalizing place with
  | nil => rfl
  | cons step steps ih => exact (ih (place.move step)).trans (place.move_absolute step)

theorem Place.move_up_of_nil {place : Place α} (hnil : place.names = []) :
    place.move .up = if place.absolute then place else { place with ups := place.ups + 1 } := by
  rw [Place.move, hnil]

theorem Place.move_up_of_ne {place : Place α} (hne : place.names ≠ []) :
    place.move .up = { place with names := place.names.dropLast } := by
  obtain ⟨name, names, hcons⟩ := List.exists_cons_of_ne_nil hne
  rw [Place.move, hcons]

theorem Place.join_move (place : Place α) {relative : Place α}
    (hrelative : relative.absolute = false) (step : Step α) :
    (place.join relative).move step = place.join (relative.move step) := by
  obtain ⟨absolute, ups, names⟩ := place
  obtain ⟨fromRoot, climbs, tail⟩ := relative
  obtain rfl : fromRoot = false := hrelative
  cases step with
  | stay => rfl
  | down name => simp [Place.join, Place.move]
  | up =>
    by_cases htail : tail = []
    · subst htail
      by_cases hlast : names.length ≤ climbs
      · -- No name of the place is left.
        have hnow : names.length - climbs = 0 := by omega
        have hthen : names.length - (climbs + 1) = 0 := by omega
        rw [Place.move_up_of_nil (by simp [Place.join, hnow]), Place.move_up_of_nil rfl]
        cases absolute with
        | true => simp [Place.join, hnow, hthen]
        | false =>
          simp only [Place.join, hnow, hthen, Bool.false_eq_true, if_false, Place.mk.injEq,
            true_and, and_true]
          omega
      · -- The step takes away a name of the place.
        have hlen : (names.take (names.length - climbs)).length = names.length - climbs := by
          rw [List.length_take]
          omega
        have hne : names.take (names.length - climbs) ≠ [] := by
          intro hnil
          rw [hnil, List.length_nil] at hlen
          omega
        have hdrop : (names.take (names.length - climbs)).dropLast =
            names.take (names.length - (climbs + 1)) := by
          rw [List.dropLast_eq_take, hlen, List.take_take]
          congr 1
          omega
        have hups : climbs - names.length = climbs + 1 - names.length := by omega
        rw [Place.move_up_of_ne (by simpa [Place.join] using hne), Place.move_up_of_nil rfl]
        simp only [Place.join, List.append_nil, hdrop, Bool.false_eq_true, if_false, hups]
    · -- The step takes back a name of the relative place.
      rw [Place.move_up_of_ne (by simp [Place.join, htail]), Place.move_up_of_ne htail]
      simp only [Place.join, List.dropLast_append_of_ne_nil htail]

theorem Place.walk_eq (place : Place α) (steps : List (Step α)) :
    place.walk steps = place.join ((start false).walk steps) := by
  induction steps using List.reverseRecOn with
  | nil => exact place.join_start.symm
  | append_singleton steps step ih =>
    rw [Place.walk_append, Place.walk_singleton, Place.walk_append, Place.walk_singleton, ih]
    exact place.join_move ((start false).walk_absolute steps) step

/-- A walk stays inside if and only if it does not climb over the current directory, and goes
down again through the names it took away. -/
theorem Place.walk_inside_iff (dir : Place α) (steps : List (Step α)) :
    (dir.walk steps).Inside dir ↔
      (dir.absolute = true ∨ ((start false).walk steps).ups ≤ dir.names.length) ∧
        dir.names.drop (dir.names.length - ((start false).walk steps).ups) <+:
          ((start false).walk steps).names := by
  rw [Place.walk_eq]
  generalize (start false).walk steps = relative
  have hnames : dir.names <+: (dir.join relative).names ↔
      dir.names.drop (dir.names.length - relative.ups) <+: relative.names := by
    have hsplit := List.take_append_drop (dir.names.length - relative.ups) dir.names
    conv_lhs => rw [← hsplit]
    simp only [Place.join]
    rw [List.prefix_append_right_inj]
  have hups : (dir.join relative).ups = dir.ups ↔
      dir.absolute = true ∨ relative.ups ≤ dir.names.length := by
    simp only [Place.join]
    cases dir.absolute with
    | true => simp
    | false => simp [Nat.sub_eq_zero_iff_le]
  constructor
  · rintro ⟨-, hsame, hprefix⟩
    exact ⟨hups.mp hsame, hnames.mp hprefix⟩
  · rintro ⟨hsame, hprefix⟩
    exact ⟨rfl, hups.mpr hsame, hnames.mpr hprefix⟩

def component (c : List Char) : Step (List Char) :=
  if c = [] ∨ c = ['.'] then .stay else if c = ['.', '.'] then .up else .down c

def components (path : List Char) : List (Step (List Char)) := (path.splitOn '/').map component

def resolve (path : List Char) : Place (List Char) :=
  (start (path.head? == some '/')).walk (components path)

/-- A file name is resolved on its own from where it stands. -/
def relative (filename : List Char) : Place (List Char) := (start false).walk (components filename)

theorem resolve_absolute (path : List Char) :
    (resolve path).absolute = (path.head? == some '/') :=
  Place.walk_absolute _ _

theorem resolve_append {path : List Char} (hne : path ≠ []) (filename : List Char) :
    resolve (path ++ '/' :: filename) = (resolve path).walk (components filename) := by
  have hcomponents : components (path ++ '/' :: filename) =
      components path ++ components filename := by
    rw [components, List.splitOn_append_cons_self, List.map_append, components, components]
  have hhead : (path ++ '/' :: filename).head? = path.head? := by
    obtain ⟨c, cs, rfl⟩ := List.exists_cons_of_ne_nil hne
    rfl
  rw [resolve, hcomponents, hhead, Place.walk_append, resolve]

end LexicalPath
