import OpenRoad.Lib.Runs

/-! The grid patterns of a track grid share their mask vectors between the axes. -/

namespace OpenRoad.Odb

open OpenRoad.Lib List

@[ext] structure GridPattern where
  origin : Int
  line_count : Int
  step : Int
  first_mask : Int
  samemask : Bool
  deriving DecidableEq

def GridPattern.mask (p : GridPattern) : Int × Bool := (p.first_mask, p.samemask)

structure DbTrackGrid where
  x_origin : List Int
  x_count : List Int
  x_step : List Int
  y_origin : List Int
  y_count : List Int
  y_step : List Int
  first_mask : List Int
  samemask : List Bool
  grid_x : List Int
  grid_y : List Int

namespace DbTrackGrid

def addGridPatternX (grid : DbTrackGrid) (p : GridPattern) : DbTrackGrid :=
  { grid with
    x_origin := grid.x_origin ++ [p.origin]
    x_count := grid.x_count ++ [p.line_count]
    x_step := grid.x_step ++ [p.step]
    first_mask := grid.first_mask ++ [p.first_mask]
    samemask := grid.samemask ++ [p.samemask]
    grid_x := [] }

def addGridPatternY (grid : DbTrackGrid) (p : GridPattern) : DbTrackGrid :=
  { grid with
    y_origin := grid.y_origin ++ [p.origin]
    y_count := grid.y_count ++ [p.line_count]
    y_step := grid.y_step ++ [p.step]
    first_mask := grid.first_mask ++ [p.first_mask]
    samemask := grid.samemask ++ [p.samemask]
    grid_y := [] }

/-- The body of both getters; `none` is a failed assertion. -/
def patternAt (origin count step first_mask : List Int) (samemask : List Bool) (i : Nat) :
    Option GridPattern := do
  return ⟨← origin[i]?, ← count[i]?, ← step[i]?, ← first_mask[i]?, ← samemask[i]?⟩

def getGridPatternX (grid : DbTrackGrid) : Nat → Option GridPattern :=
  patternAt grid.x_origin grid.x_count grid.x_step grid.first_mask grid.samemask

def getGridPatternY (grid : DbTrackGrid) : Nat → Option GridPattern :=
  patternAt grid.y_origin grid.y_count grid.y_step grid.first_mask grid.samemask

inductive Call where
  | addX (p : GridPattern)
  | addY (p : GridPattern)

namespace Call

def pattern : Call → GridPattern
  | addX p => p
  | addY p => p

def onX : Call → Option GridPattern
  | addX p => some p
  | addY _ => none

def onY : Call → Option GridPattern
  | addX _ => none
  | addY p => some p

def exec (grid : DbTrackGrid) : Call → DbTrackGrid
  | addX p => grid.addGridPatternX p
  | addY p => grid.addGridPatternY p

end Call

def created : DbTrackGrid := ⟨[], [], [], [], [], [], [], [], [], []⟩

variable (calls : List Call)

lemma run_stored :
    (run Call.exec created calls).x_origin = (calls.filterMap Call.onX).map GridPattern.origin ∧
    (run Call.exec created calls).x_count = (calls.filterMap Call.onX).map GridPattern.line_count ∧
    (run Call.exec created calls).x_step = (calls.filterMap Call.onX).map GridPattern.step ∧
    (run Call.exec created calls).y_origin = (calls.filterMap Call.onY).map GridPattern.origin ∧
    (run Call.exec created calls).y_count = (calls.filterMap Call.onY).map GridPattern.line_count ∧
    (run Call.exec created calls).y_step = (calls.filterMap Call.onY).map GridPattern.step ∧
    (run Call.exec created calls).first_mask =
      (calls.map Call.pattern).map GridPattern.first_mask ∧
    (run Call.exec created calls).samemask =
      (calls.map Call.pattern).map GridPattern.samemask := by
  induction calls using reverseRecOn with
  | nil => simp [run, created]
  | append_singleton front call ih =>
    rw [run_concat]
    cases call with
    | addX p => simp [Call.exec, addGridPatternX, Call.onX, Call.onY, Call.pattern, ih]
    | addY p => simp [Call.exec, addGridPatternY, Call.onX, Call.onY, Call.pattern, ih]

lemma patternAt_stored (own all : List GridPattern) (i : Nat) :
    patternAt (own.map GridPattern.origin) (own.map GridPattern.line_count)
        (own.map GridPattern.step) (all.map GridPattern.first_mask)
        (all.map GridPattern.samemask) i =
      own[i]?.bind fun p => all[i]?.map fun q =>
        { p with first_mask := q.first_mask, samemask := q.samemask } := by
  simp only [patternAt, getElem?_map]
  cases own[i]? <;> cases all[i]? <;> rfl

lemma patternAt_iff {own all : List GridPattern} (shorter : own.length ≤ all.length) :
    (∀ i, patternAt (own.map GridPattern.origin) (own.map GridPattern.line_count)
        (own.map GridPattern.step) (all.map GridPattern.first_mask)
        (all.map GridPattern.samemask) i = own[i]?) ↔
      own.map GridPattern.mask <+: all.map GridPattern.mask := by
  simp only [patternAt_stored, prefix_iff_getElem?, length_map, getElem?_map, getElem_map]
  apply forall_congr'
  intro i
  by_cases inside : i < own.length
  · simp [inside, inside.trans_le shorter, GridPattern.mask, GridPattern.ext_iff]
  · simp [inside]

theorem patterns_kept_iff :
    ((∀ i, (run Call.exec created calls).getGridPatternX i = (calls.filterMap Call.onX)[i]?) ∧
      ∀ i, (run Call.exec created calls).getGridPatternY i = (calls.filterMap Call.onY)[i]?) ↔
    (calls.filterMap Call.onX).map GridPattern.mask <+: calls.map (·.pattern.mask) ∧
      (calls.filterMap Call.onY).map GridPattern.mask <+: calls.map (·.pattern.mask) := by
  obtain ⟨xOrigin, xCount, xStep, yOrigin, yCount, yStep, masks, flags⟩ := run_stored calls
  have shorter (on : Call → Option GridPattern) :
      (calls.filterMap on).length ≤ (calls.map Call.pattern).length := by
    simpa using length_filterMap_le on calls
  have together : calls.map (·.pattern.mask) = (calls.map Call.pattern).map GridPattern.mask := by
    rw [map_map]
    rfl
  rw [together, ← patternAt_iff (shorter Call.onX), ← patternAt_iff (shorter Call.onY)]
  simp only [getGridPatternX, getGridPatternY, xOrigin, xCount, xStep, yOrigin, yCount, yStep,
    masks, flags]

theorem mask_of_other_axis : ¬ ∀ (calls : List Call) (i : Nat),
    (run Call.exec created calls).getGridPatternY i = (calls.filterMap Call.onY)[i]? := by
  intro kept
  have first := kept [.addX ⟨0, 10, 20, 1, true⟩, .addY ⟨0, 10, 20, 2, false⟩] 0
  revert first
  decide

end DbTrackGrid

end OpenRoad.Odb
