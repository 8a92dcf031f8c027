import Mathlib.Data.List.Sym
import OpenRoad.Lib.Pairing
import OpenRoad.Odb.CuboidCover
import OpenRoad.Odb.FloatingChips

/-! The checks for chips that overlap and for aligned bumps of two nets: the boxes they intersect. -/

namespace OpenRoad.Odb

open List OpenRoad.Lib

def Cuboid.intersects (a b : Cuboid) : Bool :=
  b.xhi ≥ a.xlo ∧ b.xlo ≤ a.xhi ∧ b.yhi ≥ a.ylo ∧ b.ylo ≤ a.yhi ∧ b.zhi ≥ a.zlo ∧ b.zlo ≤ a.zhi

def Cuboid.overlaps (a b : Cuboid) : Bool :=
  b.xhi > a.xlo ∧ b.xlo < a.xhi ∧ b.yhi > a.ylo ∧ b.ylo < a.yhi ∧ b.zhi > a.zlo ∧ b.zlo < a.zhi

/-- A failed assertion, or a write to the null pointer that a full category gives for a marker. -/
inductive CheckFault where
  | assertion | nullMarker
  deriving DecidableEq

def Cuboid.intersect (a b : Cuboid) : Except CheckFault Cuboid :=
  if a.intersects b then
    .ok ⟨max a.xlo b.xlo, max a.ylo b.ylo, max a.zlo b.zlo,
      min a.xhi b.xhi, min a.yhi b.yhi, min a.zhi b.zhi⟩
  else .error .assertion

/-- The markers of a new category; `marker` is told whether it is full. -/
def addMarkers {α β : Type} (marker : Bool → α → Except CheckFault β) :
    Nat → List α → Except CheckFault (List β)
  | _, [] => .ok []
  | made, report :: reports => do
    let first ← marker (maxMarkers ≤ made) report
    let rest ← addMarkers marker (made + 1) reports
    pure (first :: rest)

/-- A pointer into the chips of the model is the chip with its position. -/
abbrev ChipPtr := UnfoldedChip × Nat

def sweep : List ChipPtr → List (ChipPtr × ChipPtr)
  | [] => []
  | c1 :: sorted =>
    ((sorted.takeWhile fun c2 => ¬ c2.1.cuboid.xlo ≥ c1.1.cuboid.xhi).filter fun c2 =>
      c1.1.cuboid.overlaps c2.1.cuboid).map (fun c2 => (c1, c2)) ++ sweep sorted

def overlaps (m : UnfoldedModel) (sort : List ChipPtr → List ChipPtr) :
    List (ChipPtr × ChipPtr) :=
  sweep (sort m.unfolded_chips.zipIdx)

def overlapMarker (full : Bool) (pair : ChipPtr × ChipPtr) :
    Except CheckFault FloatingMarker := do
  let intersection ← pair.1.1.cuboid.intersect pair.2.1.cuboid
  if full then .error .nullMarker
  else pure {
    shapes := [intersection]
    sources := ([pair.1.1, pair.2.1].map fun chip => chip.chip_inst_path.getLastD 0).toFinset
    comment := "Chips " ++ pair.1.1.name ++ " and " ++ pair.2.1.name ++ " overlap" }

def checkOverlappingChips (m : UnfoldedModel) (sort : List ChipPtr → List ChipPtr) :
    Except CheckFault (List FloatingMarker) :=
  addMarkers overlapMarker 0 (overlaps m sort)

/-- The net that was entered last under a bump. -/
def bump_net_map (m : UnfoldedModel) (bump : BumpPtr) : Option (UnfoldedNet × Nat) :=
  m.unfolded_nets.zipIdx.reverse.find? fun net => bump ∈ net.1.connected_bumps

def get_net_name (db : ChipDatabase) (m : UnfoldedModel) (bump : BumpPtr) : String :=
  match bump_net_map m bump with
  | some (net, _) => (db.chip_net_tbl.objs net.chip_net).elim "" DbChipNet.name
  | none => "defines no net"

/-- The bump that was entered last under its point. -/
def bot_bumps (bumps : List UnfoldedBump) (p : Point3D) : Option (UnfoldedBump × Nat) :=
  bumps.zipIdx.reverse.find? fun bump =>
    bump.1.global_position.x = p.x ∧ bump.1.global_position.y = p.y

/-- Two bumps that align, with the regions that a connection joins. -/
structure Mismatch where
  connection : Nat
  top : UnfoldedRegion
  bottom : UnfoldedRegion
  top_bump : UnfoldedBump × BumpPtr
  bot_bump : UnfoldedBump × BumpPtr

def mismatches (db : ChipDatabase) (m : UnfoldedModel) (conn : UnfoldedConnection) :
    List Mismatch :=
  match conn.top_region, conn.bottom_region with
  | some top, some bottom =>
    match isValid db m conn, m.region? top, m.region? bottom with
    | true, some topRegion, some bottomRegion =>
      topRegion.bumps.zipIdx.filterMap fun (top_bump, i) => do
        let (bot_bump, j) ← bot_bumps bottomRegion.bumps top_bump.global_position
        let top_ptr := (top.1, top.2, i)
        let bot_ptr := (bottom.1, bottom.2, j)
        if (bump_net_map m top_ptr).map Prod.snd ≠ (bump_net_map m bot_ptr).map Prod.snd then
          some ⟨conn.connection, topRegion, bottomRegion, (top_bump, top_ptr), (bot_bump, bot_ptr)⟩
        else none
    | _, _, _ => []
  | _, _ => []

def mismatchMarker (db : ChipDatabase) (m : UnfoldedModel) (full : Bool) (mismatch : Mismatch) :
    Except CheckFault FloatingMarker :=
  if full then .error .nullMarker
  else do
    let overlap ← mismatch.top.cuboid.intersect mismatch.bottom.cuboid
    let p := mismatch.top_bump.1.global_position
    pure {
      shapes := [overlap]
      sources := {mismatch.top_bump.1.bump_inst, mismatch.bot_bump.1.bump_inst}
      comment := "Bumps at (" ++ toString p.x ++ ", " ++ toString p.y ++
        ") align physically but logical connectivity mismatch: Top bump " ++
        get_net_name db m mismatch.top_bump.2 ++ " vs Bottom bump " ++
        get_net_name db m mismatch.bot_bump.2 }

def checkLogicalConnectivity (db : ChipDatabase) (m : UnfoldedModel) :
    Except CheckFault (List FloatingMarker) :=
  addMarkers (mismatchMarker db m) 0 (m.unfolded_connections.flatMap (mismatches db m))

/-- What `std::ranges::sort` promises for the comparison of lower bounds. -/
structure SortsByXMin (sort : List ChipPtr → List ChipPtr) : Prop where
  perm : ∀ chips, (sort chips).Perm chips
  sorted : ∀ chips, (sort chips).Pairwise fun a b => a.1.cuboid.xlo ≤ b.1.cuboid.xlo

/-- The points between the walls of a box; they need not lie on the grid. -/
def Cuboid.interior (c : Cuboid) : Set (ℚ × ℚ × ℚ) :=
  { p | (c.xlo < p.1 ∧ p.1 < c.xhi) ∧ (c.ylo < p.2.1 ∧ p.2.1 < c.yhi) ∧
    (c.zlo < p.2.2 ∧ p.2.2 < c.zhi) }

/-- The unordered pairs of chips whose interiors meet. -/
def overlapping (m : UnfoldedModel) : Set (Sym2 Nat) :=
  { pair | ∃ i j a b, pair = s(i, j) ∧ i ≠ j ∧ m.unfolded_chips[i]? = some a ∧
    m.unfolded_chips[j]? = some b ∧ (a.cuboid.interior ∩ b.cuboid.interior).Nonempty }

structure Cuboid.Solid (c : Cuboid) : Prop where
  x : c.xlo < c.xhi
  y : c.ylo < c.yhi
  z : c.zlo < c.zhi

/-- A chip that is flat is not taken to overlap another one. -/
def FlatsApart (m : UnfoldedModel) : Prop :=
  ∀ (i j : Nat) (a b : UnfoldedChip), i ≠ j → m.unfolded_chips[i]? = some a →
    m.unfolded_chips[j]? = some b → a.cuboid.overlaps b.cuboid = true → a.cuboid.Solid

def positions (pairs : List (ChipPtr × ChipPtr)) : List (Nat × Nat) :=
  pairs.map fun pair => (pair.1.2, pair.2.2)

def unordered (pairs : List (Nat × Nat)) : List (Sym2 Nat) :=
  pairs.map fun pair => s(pair.1, pair.2)

/-- The marker shows what the boxes of two chips share and names their instances. -/
structure MarksPair (m : UnfoldedModel) (pair : ChipPtr × ChipPtr) (marker : FloatingMarker) :
    Prop where
  shapes : ∃ box, marker.shapes = [box] ∧ ∀ p, box.Contains p ↔
    pair.1.1.cuboid.Contains p ∧ pair.2.1.cuboid.Contains p
  sources : NamesInsts m [pair.1.2, pair.2.2] marker.sources
  comment : marker.comment = "Chips " ++ pair.1.1.name ++ " and " ++ pair.2.1.name ++ " overlap"

/-- The markers are those of the pairs that overlap, each once. -/
structure OverlapsReported (m : UnfoldedModel) (sort : List ChipPtr → List ChipPtr)
    (markers : List FloatingMarker) : Prop where
  once : (unordered (positions (overlaps m sort))).Nodup
  found : ∀ pair, pair ∈ unordered (positions (overlaps m sort)) ↔ pair ∈ overlapping m
  marks : Forall₂ (MarksPair m) (overlaps m sort) markers

lemma open_meet (a b c d : Int) : (∃ t : ℚ, (a < t ∧ t < b) ∧ (c < t ∧ t < d)) ↔
    a < b ∧ a < d ∧ c < b ∧ c < d := by
  constructor
  · rintro ⟨t, ⟨aboveA, belowB⟩, aboveC, belowD⟩
    have all : (a : ℚ) < b ∧ (a : ℚ) < d ∧ (c : ℚ) < b ∧ (c : ℚ) < d :=
      ⟨aboveA.trans belowB, aboveA.trans belowD, aboveC.trans belowB, aboveC.trans belowD⟩
    exact_mod_cast all
  · rintro ⟨ab, ad, cb, cd⟩
    have gap : max (a : ℚ) c < min (b : ℚ) d := by
      rw [max_lt_iff, lt_min_iff, lt_min_iff]
      exact ⟨⟨Int.cast_lt.mpr ab, Int.cast_lt.mpr ad⟩, Int.cast_lt.mpr cb, Int.cast_lt.mpr cd⟩
    rcases exists_between gap with ⟨t, above, below⟩
    rw [max_lt_iff] at above
    rw [lt_min_iff] at below
    exact ⟨t, ⟨above.1, below.1⟩, above.2, below.2⟩

lemma interiors_meet_iff (a b : Cuboid) : (a.interior ∩ b.interior).Nonempty ↔
    a.overlaps b = true ∧ a.Solid ∧ b.Solid := by
  have axes : (a.interior ∩ b.interior).Nonempty ↔
      (∃ t : ℚ, (a.xlo < t ∧ t < a.xhi) ∧ (b.xlo < t ∧ t < b.xhi)) ∧
      (∃ t : ℚ, (a.ylo < t ∧ t < a.yhi) ∧ (b.ylo < t ∧ t < b.yhi)) ∧
      ∃ t : ℚ, (a.zlo < t ∧ t < a.zhi) ∧ (b.zlo < t ∧ t < b.zhi) := by
    constructor
    · rintro ⟨p, ⟨ax, ay, az⟩, bx, byy, bz⟩
      exact ⟨⟨_, ax, bx⟩, ⟨_, ay, byy⟩, _, az, bz⟩
    · rintro ⟨⟨x, ax, bx⟩, ⟨y, ay, byy⟩, z, az, bz⟩
      exact ⟨(x, y, z), ⟨ax, ay, az⟩, bx, byy, bz⟩
  rw [axes, open_meet, open_meet, open_meet, Cuboid.overlaps, decide_eq_true_eq]
  constructor
  · rintro ⟨⟨x, xb, bx, bx'⟩, ⟨y, yb, byy, by'⟩, z, zb, bz, bz'⟩
    exact ⟨⟨xb, bx, yb, byy, zb, bz⟩, ⟨x, y, z⟩, bx', by', bz'⟩
  · rintro ⟨⟨xb, bx, yb, byy, zb, bz⟩, ⟨x, y, z⟩, bx', by', bz'⟩
    exact ⟨⟨x, xb, bx, bx'⟩, ⟨y, yb, byy, by'⟩, z, zb, bz, bz'⟩

lemma overlaps_comm (a b : Cuboid) : a.overlaps b = b.overlaps a := by
  rw [Bool.eq_iff_iff]
  simp only [Cuboid.overlaps, decide_eq_true_eq]
  omega

lemma intersects_of_overlaps {a b : Cuboid} (overlap : a.overlaps b = true) :
    a.intersects b = true := by
  simp only [Cuboid.overlaps, Cuboid.intersects, decide_eq_true_eq] at overlap ⊢
  omega

section Sweep

variable {a b c1 : ChipPtr} {chips : List ChipPtr}

lemma mem_reached (sorted : chips.Pairwise fun a b => a.1.cuboid.xlo ≤ b.1.cuboid.xlo)
    (overlap : c1.1.cuboid.overlaps b.1.cuboid = true) :
    b ∈ chips.takeWhile (fun c2 => ¬ c2.1.cuboid.xlo ≥ c1.1.cuboid.xhi) ↔ b ∈ chips := by
  induction chips with
  | nil => exact Iff.rfl
  | cons c2 chips ih =>
    rcases pairwise_cons.mp sorted with ⟨behind, sorted⟩
    rw [takeWhile_cons]
    split
    · rw [mem_cons, mem_cons, ih sorted]
    · rename_i stops
      refine iff_of_false not_mem_nil fun member => stops ?_
      simp only [Cuboid.overlaps, decide_eq_true_eq] at overlap
      rcases mem_cons.mp member with rfl | member
      · exact decide_eq_true (by omega)
      · have later := behind b member
        exact decide_eq_true (by omega)

lemma mem_sweep (sorted : chips.Pairwise fun a b => a.1.cuboid.xlo ≤ b.1.cuboid.xlo) :
    (a, b) ∈ sweep chips ↔ [a, b] <+ chips ∧ a.1.cuboid.overlaps b.1.cuboid = true := by
  induction chips with
  | nil => simp [sweep]
  | cons c1 chips ih =>
    replace sorted := (pairwise_cons.mp sorted).2
    rw [sweep, mem_append, ih sorted, cons_sublist_cons', singleton_sublist, mem_map]
    constructor
    · rintro (⟨c2, reached, same⟩ | ⟨inside, overlap⟩)
      · cases same
        rcases mem_filter.mp reached with ⟨reached, overlap⟩
        exact ⟨.inr ⟨rfl, (mem_reached sorted overlap).mp reached⟩, overlap⟩
      · exact ⟨.inl inside, overlap⟩
    · rintro ⟨inside | ⟨rfl, member⟩, overlap⟩
      · exact .inr ⟨inside, overlap⟩
      · exact .inl ⟨b, mem_filter.mpr ⟨(mem_reached sorted overlap).mpr member, overlap⟩, rfl⟩

lemma sweep_sublist (chips : List ChipPtr) :
    unordered (positions (sweep chips)) <+ (chips.map Prod.snd).sym2 := by
  induction chips with
  | nil => exact .slnil
  | cons c1 chips ih =>
    rw [positions, unordered, map_map] at ih ⊢
    have reached (p q : ChipPtr → Bool) : ((chips.takeWhile p).filter q).map
        (fun c2 => s(c1.2, c2.2)) <+ chips.map fun c2 => s(c1.2, c2.2) :=
      (filter_sublist.trans (takeWhile_sublist p)).map _
    rw [sweep, map_append, map_map, map_cons, List.sym2, map_cons, map_map]
    exact ((reached _ _).trans (sublist_cons_self _ _)).append ih

lemma sublist_of_ne (inside : a ∈ chips) (inside' : b ∈ chips) (differ : a ≠ b) :
    [a, b] <+ chips ∨ [b, a] <+ chips := by
  induction chips with
  | nil => cases inside
  | cons c1 chips ih =>
    simp only [cons_sublist_cons', singleton_sublist]
    rcases mem_cons.mp inside with isA | below <;> rcases mem_cons.mp inside' with isB | below'
    · exact absurd (isA.trans isB.symm) differ
    · exact .inl (.inr ⟨isA, below'⟩)
    · exact .inr (.inr ⟨isB, below⟩)
    · exact (ih below below').imp .inl .inl

end Sweep

/-- The unordered pairs of chips that `Cuboid::overlaps` puts together. -/
def touching (m : UnfoldedModel) : Set (Sym2 Nat) :=
  { pair | ∃ i j a b, pair = s(i, j) ∧ i ≠ j ∧ m.unfolded_chips[i]? = some a ∧
    m.unfolded_chips[j]? = some b ∧ a.cuboid.overlaps b.cuboid = true }

lemma touching_eq_iff (m : UnfoldedModel) : touching m = overlapping m ↔ FlatsApart m := by
  constructor
  · intro same i j a b differ isA isB overlap
    have touches : s(i, j) ∈ touching m := ⟨i, j, a, b, rfl, differ, isA, isB, overlap⟩
    rw [same] at touches
    rcases touches with ⟨i', j', a', b', pair, _, isA', isB', meet⟩
    have solid := ((interiors_meet_iff _ _).mp meet).2
    rcases Sym2.eq_iff.mp pair with ⟨rfl, rfl⟩ | ⟨rfl, rfl⟩
    · cases isA.symm.trans isA'
      exact solid.1
    · cases isA.symm.trans isB'
      exact solid.2
  · intro apart
    refine Set.Subset.antisymm ?_ ?_
    · rintro pair ⟨i, j, a, b, rfl, differ, isA, isB, overlap⟩
      have solid := apart i j a b differ isA isB overlap
      have solid' := apart j i b a differ.symm isB isA (overlaps_comm a.cuboid b.cuboid ▸ overlap)
      exact ⟨i, j, a, b, rfl, differ, isA, isB, (interiors_meet_iff _ _).mpr
        ⟨overlap, solid, solid'⟩⟩
    · rintro pair ⟨i, j, a, b, rfl, differ, isA, isB, meet⟩
      exact ⟨i, j, a, b, rfl, differ, isA, isB, ((interiors_meet_iff _ _).mp meet).1⟩

section Reports

variable {m : UnfoldedModel} {sort : List ChipPtr → List ChipPtr}

lemma sorted_place (sorts : SortsByXMin sort) {chip : ChipPtr} :
    chip ∈ sort m.unfolded_chips.zipIdx ↔ m.unfolded_chips[chip.2]? = some chip.1 := by
  rw [(sorts.perm _).mem_iff, mem_zipIdx_iff_getElem?]

lemma overlaps_found (sorts : SortsByXMin sort) :
    (unordered (positions (overlaps m sort))).Nodup ∧
      ∀ pair, pair ∈ unordered (positions (overlaps m sort)) ↔ pair ∈ touching m := by
  have sorted := sorts.sorted m.unfolded_chips.zipIdx
  have distinct : ((sort m.unfolded_chips.zipIdx).map Prod.snd).Nodup := by
    rw [((sorts.perm _).map Prod.snd).nodup_iff, zipIdx_map_snd]
    exact nodup_range'
  refine ⟨(sweep_sublist _).nodup distinct.sym2, fun pair => ?_⟩
  simp only [unordered, positions, map_map, mem_map, touching, Set.mem_ofPred_eq]
  constructor
  · rintro ⟨⟨a, b⟩, found, rfl⟩
    rcases (mem_sweep sorted).mp found with ⟨inside, overlap⟩
    have differ := distinct.sublist (inside.map Prod.snd)
    refine ⟨a.2, b.2, a.1, b.1, rfl, ?_, ?_, ?_, overlap⟩
    · simpa using differ
    · exact (sorted_place sorts).mp (inside.subset (by simp))
    · exact (sorted_place sorts).mp (inside.subset (by simp))
  · rintro ⟨i, j, a, b, rfl, differ, isA, isB, overlap⟩
    rcases sublist_of_ne (a := (a, i)) (b := (b, j)) ((sorted_place sorts).mpr isA)
      ((sorted_place sorts).mpr isB) (fun same => differ (congrArg Prod.snd same)) with
      inside | inside
    · exact ⟨_, (mem_sweep sorted).mpr ⟨inside, overlap⟩, rfl⟩
    · exact ⟨_, (mem_sweep sorted).mpr ⟨inside, overlaps_comm a.cuboid b.cuboid ▸ overlap⟩, Sym2.eq_swap⟩

lemma overlapMarker_marks {db : ChipDatabase} {fuel chipId : Nat}
    (done : unfold db fuel chipId = .ok m) {pair : ChipPtr × ChipPtr}
    (first : m.unfolded_chips[pair.1.2]? = some pair.1.1)
    (second : m.unfolded_chips[pair.2.2]? = some pair.2.1)
    (meet : pair.1.1.cuboid.intersects pair.2.1.cuboid = true) :
    ∃ marker, overlapMarker false pair = .ok marker ∧ MarksPair m pair marker := by
  rw [overlapMarker, Cuboid.intersect, if_pos meet]
  refine ⟨_, rfl, ⟨_, rfl, fun p => ?_⟩, ?_, rfl⟩
  · constructor
    · rintro ⟨x, y, z⟩
      simp only [sup_le_iff, le_inf_iff] at x y z
      exact ⟨⟨⟨x.1.1, x.2.1⟩, ⟨y.1.1, y.2.1⟩, z.1.1, z.2.1⟩, ⟨x.1.2, x.2.2⟩, ⟨y.1.2, y.2.2⟩,
        z.1.2, z.2.2⟩
    · rintro ⟨⟨x, y, z⟩, x', y', z'⟩
      exact ⟨⟨sup_le x.1 x'.1, le_inf x.2 x'.2⟩, ⟨sup_le y.1 y'.1, le_inf y.2 y'.2⟩,
        sup_le z.1 z'.1, le_inf z.2 z'.2⟩
  · have names := namesInsts_leaves done [pair.1.2, pair.2.2]
    rwa [filterMap_cons_some first, filterMap_cons_some second, filterMap_nil] at names

lemma addMarkers_overlaps {db : ChipDatabase} {fuel chipId : Nat}
    (done : unfold db fuel chipId = .ok m) {pairs : List (ChipPtr × ChipPtr)}
    (meet : ∀ pair ∈ pairs, m.unfolded_chips[pair.1.2]? = some pair.1.1 ∧
      m.unfolded_chips[pair.2.2]? = some pair.2.1 ∧
      pair.1.1.cuboid.intersects pair.2.1.cuboid = true) (made : Nat)
    (room : made ≤ maxMarkers) :
    if made + pairs.length ≤ maxMarkers then
      ∃ markers, addMarkers overlapMarker made pairs = .ok markers ∧
        Forall₂ (MarksPair m) pairs markers
    else addMarkers overlapMarker made pairs = .error .nullMarker := by
  induction pairs generalizing made with
  | nil =>
    rw [if_pos (by simpa using room)]
    exact ⟨[], rfl, .nil⟩
  | cons pair pairs ih =>
    rcases forall_mem_cons.mp meet with ⟨⟨first, second, boxes⟩, meet⟩
    rw [addMarkers, length_cons]
    by_cases full : maxMarkers ≤ made
    · rw [if_neg (by omega), overlapMarker, Cuboid.intersect, if_pos boxes]
      simp only [full, decide_true]
      rfl
    · have later := ih meet (made + 1) (by omega)
      rcases overlapMarker_marks done first second boxes with ⟨marker, made', marks⟩
      simp only [full, decide_false, made']
      rw [show made + (pairs.length + 1) = made + 1 + pairs.length by omega]
      split at later
      · rename_i fits
        rcases later with ⟨markers, ran, all⟩
        rw [if_pos fits, ran]
        exact ⟨_, rfl, .cons marks all⟩
      · rename_i exceeds
        rw [if_neg exceeds, later]
        rfl

lemma found_ncard {pairs : List (Sym2 Nat)} (once : pairs.Nodup)
    (found : ∀ pair, pair ∈ pairs ↔ pair ∈ overlapping m) :
    (overlapping m).ncard = pairs.length := by
  have same : overlapping m = (pairs.toFinset : Set (Sym2 Nat)) := by
    ext pair
    rw [Finset.mem_coe, mem_toFinset, found]
  rw [same, Set.ncard_coe_finset, toFinset_card_of_nodup once]

end Reports

lemma addMarkers_mismatches (db : ChipDatabase) (m : UnfoldedModel) (found : List Mismatch)
    (made : Nat) :
    addMarkers (mismatchMarker db m) made found ≠ .error .assertion ↔
      ∀ mismatch ∈ found.take (maxMarkers - made),
        mismatch.top.cuboid.intersects mismatch.bottom.cuboid = true := by
  induction found generalizing made with
  | nil => simp [addMarkers]
  | cons mismatch found ih =>
    rw [addMarkers, mismatchMarker, Cuboid.intersect]
    by_cases full : maxMarkers ≤ made
    · rw [Nat.sub_eq_zero_of_le full, take_zero]
      simp only [full, decide_true]
      exact iff_of_true (fun same => nomatch same) fun _ member => nomatch member
    · have later := ih (made + 1)
      rw [show maxMarkers - made = (maxMarkers - (made + 1)) + 1 by omega, take_succ_cons,
        forall_mem_cons, ← later]
      simp only [full, decide_false]
      by_cases meet : mismatch.top.cuboid.intersects mismatch.bottom.cuboid = true
      · rw [if_pos meet]
        simp only [meet, true_and]
        rcases addMarkers (mismatchMarker db m) (made + 1) found with fault | markers
        · exact Iff.rfl
        · exact iff_of_true (fun same => nomatch same) fun same => nomatch same
      · rw [if_neg meet]
        exact iff_of_false (fun differ => differ rfl) fun both => meet both.1

lemma mem_mismatches {db : ChipDatabase} {m : UnfoldedModel} {conn : UnfoldedConnection}
    {mismatch : Mismatch} (found : mismatch ∈ mismatches db m conn) :
    regionsMate (getThickness db mismatch.connection) mismatch.top mismatch.bottom = true ∧
      (∃ ptr, m.region? ptr = some mismatch.top) ∧
      ∃ ptr, m.region? ptr = some mismatch.bottom := by
  rw [mismatches] at found
  split at found
  · rename_i top bottom isTop isBottom
    split at found
    · rename_i topRegion bottomRegion valid atTop atBottom
      rw [isValid, isTop, isBottom] at valid
      simp only [atTop, atBottom] at valid
      rcases mem_filterMap.mp found with ⟨⟨top_bump, i⟩, _, done⟩
      rcases Option.bind_eq_some_iff.mp done with ⟨⟨bot_bump, j⟩, _, done⟩
      simp only at done
      split at done
      · cases done
        exact ⟨valid, ⟨_, atTop⟩, _, atBottom⟩
      · cases done
    · cases found
  · cases found

def Mismatch.external (mismatch : Mismatch) : Prop :=
  mismatch.top.effective_side = .INTERNAL_EXT ∨ mismatch.bottom.effective_side = .INTERNAL_EXT

lemma mate_intersects_iff {thickness : Int} {top bottom : UnfoldedRegion}
    (mate : regionsMate thickness top bottom = true) (upright : top.cuboid.Upright)
    (upright' : bottom.cuboid.Upright) : top.cuboid.intersects bottom.cuboid = true ↔
      thickness = 0 ∨ top.effective_side = .INTERNAL_EXT ∨
        bottom.effective_side = .INTERNAL_EXT := by
  rcases top with ⟨_, side, ⟨xlo, ylo, zlo, xhi, yhi, zhi⟩, _, _⟩
  rcases bottom with ⟨_, side', ⟨xlo', ylo', zlo', xhi', yhi', zhi'⟩, _, _⟩
  rcases upright with ⟨_, _, (upright : zlo ≤ zhi)⟩
  rcases upright' with ⟨_, _, (upright' : zlo' ≤ zhi')⟩
  rw [regionsMate] at mate
  split at mate
  · cases mate
  · rename_i plane
    simp only [Cuboid.xyIntersects, not_not, decide_eq_true_eq] at plane
    simp only [Cuboid.intersects, decide_eq_true_eq]
    split at mate
    · rename_i ext
      simp only [ext, or_true, iff_true]
      simp only [decide_eq_true_eq] at mate
      omega
    · rename_i inner
      simp only [inner, or_false]
      cases side <;> cases side' <;>
        simp [getMatingSurfaces, getSurfaceZ] at mate <;> omega

lemma unfold_upright {db : ChipDatabase} {fuel chipId : Nat} {m : UnfoldedModel}
    (done : unfold db fuel chipId = .ok m) {ptr : RegionPtr} {region : UnfoldedRegion}
    (there : m.region? ptr = some region) : region.cuboid.Upright := by
  rcases Option.bind_eq_some_iff.mp there with ⟨unfolded, isChip, isRegion⟩
  rcases unfold_exact_chip done (mem_of_getElem? isChip) with ⟨inst, master, exact'⟩
  have inRegions : { region with isUsed := false } ∈ unfolded.unmarked.regions :=
    mem_map_of_mem (mem_of_getElem? isRegion)
  rcases forall₂_right exact'.regions inRegions with ⟨_, _, _, _, _, _, _, _, box⟩
  change region.cuboid = _ at box
  rw [box]
  exact DbTransform.applyCuboid_upright _ _

/-- The boxes meet in each check, and the overlaps are found, unless a flat chip lies in another
one, one of the bumps that are reported lies on a connection with a gap, or the category gets
full. -/
theorem checks_meet_iff {db : ChipDatabase} {fuel chipId : Nat} {m : UnfoldedModel}
    {sort : List ChipPtr → List ChipPtr} (done : unfold db fuel chipId = .ok m)
    (sorts : SortsByXMin sort) :
    checkOverlappingChips m sort ≠ .error .assertion ∧
    ((∃ markers, checkOverlappingChips m sort = .ok markers ∧ OverlapsReported m sort markers) ∧
      checkLogicalConnectivity db m ≠ .error .assertion ↔
      FlatsApart m ∧ (overlapping m).ncard ≤ maxMarkers ∧
        ∀ mismatch ∈ (m.unfolded_connections.flatMap (mismatches db m)).take maxMarkers,
          getThickness db mismatch.connection = 0 ∨ mismatch.external) := by
  rcases overlaps_found (m := m) sorts with ⟨once, found⟩
  have meet : ∀ pair ∈ overlaps m sort, m.unfolded_chips[pair.1.2]? = some pair.1.1 ∧
      m.unfolded_chips[pair.2.2]? = some pair.2.1 ∧
      pair.1.1.cuboid.intersects pair.2.1.cuboid = true := by
    intro pair listed
    rcases (mem_sweep (sorts.sorted _)).mp listed with ⟨inside, overlap⟩
    exact ⟨(sorted_place sorts).mp (inside.subset (by simp)),
      (sorted_place sorts).mp (inside.subset (by simp)), intersects_of_overlaps overlap⟩
  have outcome := addMarkers_overlaps done meet 0 (Nat.zero_le _)
  rw [← checkOverlappingChips] at outcome
  have connectivity : checkLogicalConnectivity db m ≠ .error .assertion ↔
      ∀ mismatch ∈ (m.unfolded_connections.flatMap (mismatches db m)).take maxMarkers,
        getThickness db mismatch.connection = 0 ∨ mismatch.external := by
    rw [checkLogicalConnectivity, addMarkers_mismatches]
    apply forall₂_congr
    intro mismatch listed
    rcases mem_flatMap.mp (mem_of_mem_take listed) with ⟨conn, _, found⟩
    rcases mem_mismatches found with ⟨mate, ⟨_, isTop⟩, _, isBottom⟩
    exact mate_intersects_iff mate (unfold_upright done isTop) (unfold_upright done isBottom)
  have count : FlatsApart m → (overlapping m).ncard = 0 + (overlaps m sort).length := by
    intro apart
    rw [found_ncard once fun pair => (found pair).trans
      (Set.ext_iff.mp ((touching_eq_iff m).mpr apart) pair), unordered, length_map, positions,
      length_map, Nat.zero_add]
  rw [connectivity, ← and_assoc]
  split at outcome
  · rename_i fits
    rcases outcome with ⟨markers, ran, marks⟩
    rw [ran]
    refine ⟨(fun fault => nomatch fault), and_congr_left fun _ => ?_⟩
    constructor
    · rintro ⟨_, _, reported⟩
      have apart : FlatsApart m := (touching_eq_iff m).mp <| Set.ext fun pair =>
        (found pair).symm.trans (reported.found pair)
      exact ⟨apart, count apart ▸ fits⟩
    · rintro ⟨apart, _⟩
      have same := Set.ext_iff.mp ((touching_eq_iff m).mpr apart)
      exact ⟨markers, rfl, once, fun pair => (found pair).trans (same pair), marks⟩
  · rename_i exceeds
    rw [outcome]
    refine ⟨(fun fault => nomatch fault), and_congr_left fun _ => iff_of_false ?_ ?_⟩
    · rintro ⟨_, ran, _⟩
      cases ran
    · rintro ⟨apart, fits⟩
      exact exceeds (count apart ▸ fits)

/-- A die with a bump upon a die with a bump, turned over and five units above it. -/
def gappedDatabase : ChipDatabase where
  chip := 1
  chip_hash := [("die", 2), ("top", 1)]
  chip_tbl := tableOf [
    { newChip "top" .HIER 0 with chipinsts := [1, 2], conns := [1], nets := [1] },
    { newChip "die" .DIE 1 with
      thickness := 1
      chip_region_map := [("front", 1)]
      chip_region_tbl := tableOf [
        { newRegion "front" .FRONT 1 with chip_bump_tbl := tableOf [⟨1, 2, 1⟩] }]
      block_insts := some fun id => if id = 1 then some ⟨0, 0⟩ else none }]
  chip_inst_tbl := tableOf [
    { newChipInst "base" 2 1 with chip_region_insts := [1] },
    { newChipInst "lid" 2 1 with
      origin := ⟨0, 0, 7⟩, orient := ⟨.R0, true⟩, chip_region_insts := [2] }]
  chip_region_inst_tbl := tableOf [⟨1, 1, [1]⟩, ⟨1, 2, [2]⟩]
  chip_bump_inst_tbl := tableOf [⟨1, 1⟩, ⟨1, 2⟩]
  chip_conn_tbl := tableOf [⟨"bond", 5, 1, 2, 1, [2], [1]⟩]
  chip_net_tbl := tableOf [⟨"n", 1, [([1], 1)]⟩]

def byXMin (chips : List ChipPtr) : List ChipPtr :=
  chips.insertionSort fun a b => a.1.cuboid.xlo ≤ b.1.cuboid.xlo

lemma byXMin_sorts : SortsByXMin byXMin where
  perm chips := perm_insertionSort _ chips
  sorted chips := by
    have total : Std.Total fun a b : ChipPtr => a.1.cuboid.xlo ≤ b.1.cuboid.xlo :=
      ⟨fun a b => le_total a.1.cuboid.xlo b.1.cuboid.xlo⟩
    have trans : IsTrans ChipPtr fun a b => a.1.cuboid.xlo ≤ b.1.cuboid.xlo :=
      ⟨fun a b c => le_trans⟩
    exact pairwise_insertionSort _ chips

theorem checks_meet_sample : ∃ m, unfold gappedDatabase 3 1 = .ok m ∧
    checkOverlappingChips m byXMin ≠ .error .assertion ∧
    ((∃ markers, checkOverlappingChips m byXMin = .ok markers ∧
        OverlapsReported m byXMin markers) ∧
      checkLogicalConnectivity gappedDatabase m ≠ .error .assertion ↔
      FlatsApart m ∧ (overlapping m).ncard ≤ maxMarkers ∧
        ∀ mismatch ∈
          (m.unfolded_connections.flatMap (mismatches gappedDatabase m)).take maxMarkers,
          getThickness gappedDatabase mismatch.connection = 0 ∨ mismatch.external) := by
  cases done : unfold gappedDatabase 3 1 with
  | error fault =>
    have unfolds : (unfold gappedDatabase 3 1).toOption.isSome := by decide
    rw [done] at unfolds
    cases unfolds
  | ok m => exact ⟨m, rfl, checks_meet_iff done byXMin_sorts⟩

/-- The aligned bumps of the two dies are in two nets, and the boxes of their regions do not meet. -/
theorem gapped_regions_asserted : ∃ m, unfold gappedDatabase 3 1 = .ok m ∧
    checkLogicalConnectivity gappedDatabase m = .error .assertion := ⟨_, rfl, by rfl⟩

end OpenRoad.Odb
