import OpenRoad.Lib.Tally
import OpenRoad.Lib.UnionFind
import OpenRoad.Odb.UnfoldConnections

/-! The check for chips that no valid connection ties to the ground. -/

namespace OpenRoad.Odb

open OpenRoad.Lib List

/-- The heights of the two surfaces that face each other. -/
def getMatingSurfaces (r1 r2 : UnfoldedRegion) : Option (Int × Int) :=
  let r1_down_r2_up : Bool := r1.effective_side = .BOTTOM ∧ r2.effective_side = .TOP
  let r1_up_r2_down : Bool := r1.effective_side = .TOP ∧ r2.effective_side = .BOTTOM
  if r1_down_r2_up = r1_up_r2_down then none
  else
    let top := if r1_down_r2_up then r1 else r2
    let bot := if r1_down_r2_up then r2 else r1
    some (getSurfaceZ top.effective_side top.cuboid, getSurfaceZ bot.effective_side bot.cuboid)

def Cuboid.xyIntersects (a b : Cuboid) : Bool :=
  a.xlo ≤ b.xhi ∧ b.xlo ≤ a.xhi ∧ a.ylo ≤ b.yhi ∧ b.ylo ≤ a.yhi

def regionsMate (thickness : Int) (top bottom : UnfoldedRegion) : Bool :=
  if ¬ top.cuboid.xyIntersects bottom.cuboid then false
  else if top.effective_side = .INTERNAL_EXT ∨ bottom.effective_side = .INTERNAL_EXT then
    max top.cuboid.zlo bottom.cuboid.zlo ≤ min top.cuboid.zhi bottom.cuboid.zhi
  else
    match getMatingSurfaces top bottom with
    | none => false
    | some (top_z, bot_z) => bot_z ≤ top_z ∧ top_z - bot_z = thickness

def getThickness (db : ChipDatabase) (conn : Nat) : Int :=
  (db.chip_conn_tbl.objs conn).elim 0 DbChipConn.thickness

def isValid (db : ChipDatabase) (m : UnfoldedModel) (conn : UnfoldedConnection) : Bool :=
  match conn.top_region, conn.bottom_region with
  | some top, some bottom =>
    match m.region? top, m.region? bottom with
    | some top, some bottom => regionsMate (getThickness db conn.connection) top bottom
    | _, _ => false
  | _, _ => true

/-- What a valid connection unites: its two chips, or its one chip and the ground. -/
def unitedPair (db : ChipDatabase) (m : UnfoldedModel) (conn : UnfoldedConnection) :
    Option (Nat × Nat) :=
  let chips := m.unfolded_chips.length
  if isValid db m conn then
    match conn.top_region, conn.bottom_region with
    | some top, some bottom =>
      if top.1 < chips ∧ bottom.1 < chips then some (top.1, bottom.1) else none
    | some region, none => if region.1 < chips then some (region.1, chips) else none
    | none, some region => if region.1 < chips then some (region.1, chips) else none
    | none, none => none
  else none

def unitedPairs (db : ChipDatabase) (m : UnfoldedModel) : List (Nat × Nat) :=
  m.unfolded_connections.filterMap (unitedPair db m)

def groupChip (state : UnionFind × List (List Nat)) (chip : Nat) : UnionFind × List (List Nat) :=
  let found := state.1.find chip
  (found.1, state.2.modify found.2 (· ++ [chip]))

/-- The groups apart from that of the ground, and whether that one is empty. -/
def looseGroups (db : ChipDatabase) (m : UnfoldedModel) : List (List Nat) × Bool :=
  let chips := m.unfolded_chips.length
  let uf := (unitedPairs db m).foldl (fun uf pair => uf.unite pair.1 pair.2)
    (UnionFind.make (chips + 1))
  let grouped := (List.range chips).foldl groupChip (uf, List.replicate (chips + 1) [])
  let ground_leader := (grouped.1.find chips).2
  ((grouped.2.eraseIdx ground_leader).filter fun group => ¬ group.isEmpty,
    (grouped.2.getD ground_leader []).isEmpty)

/-- The groups by size, with the biggest one erased where there is no ground group; `sort` orders
groups of one size as it likes. -/
def floatingGroups (db : ChipDatabase) (m : UnfoldedModel)
    (sort : List (List Nat) → List (List Nat)) : List (List Nat) :=
  let groups := sort (looseGroups db m).1
  (if (looseGroups db m).2 then groups.dropLast else groups).reverse

/-- What a marker shows; `sources_` is a set. -/
structure FloatingMarker where
  shapes : List Cuboid
  sources : Finset Nat
  comment : String
deriving DecidableEq

def floatingMarker (m : UnfoldedModel) (group : List Nat) : FloatingMarker :=
  let chips := group.filterMap fun chip => m.unfolded_chips[chip]?
  { shapes := chips.map UnfoldedChip.cuboid
    sources := (chips.map fun chip => chip.chip_inst_path.getLastD 0).toFinset
    comment := "Isolated chip set starting with " ++ (chips.head?.map UnfoldedChip.name).getD "" }

/-- A new category takes so many markers; the check writes to the null pointer it gets for more. -/
def maxMarkers : Nat := 10000

def checkFloatingChips (db : ChipDatabase) (m : UnfoldedModel)
    (sort : List (List Nat) → List (List Nat)) : Option (List FloatingMarker) :=
  let groups := floatingGroups db m sort
  if groups.length ≤ maxMarkers then some (groups.map (floatingMarker m)) else none

/-- What `std::ranges::sort` promises for the comparison of sizes. -/
structure SortsBySize (sort : List (List Nat) → List (List Nat)) : Prop where
  perm : ∀ groups, (sort groups).Perm groups
  sorted : ∀ groups, (sort groups).Pairwise fun a b => a.length ≤ b.length

/-- A valid connection has regions on both chips. -/
def LinkedChips (db : ChipDatabase) (m : UnfoldedModel) (i j : Nat) : Prop :=
  ∃ conn ∈ m.unfolded_connections, isValid db m conn = true ∧ ∃ top bottom,
    conn.top_region = some top ∧ conn.bottom_region = some bottom ∧
      (top.1 = i ∧ bottom.1 = j ∨ top.1 = j ∧ bottom.1 = i)

def OneSet (db : ChipDatabase) (m : UnfoldedModel) : Nat → Nat → Prop :=
  Relation.ReflTransGen (LinkedChips db m)

/-- The chip has a connection whose other end is missing, and stands for `other` in the database. -/
def MissingEnd (db : ChipDatabase) (m : UnfoldedModel) (other : Nat → Prop) (i : Nat) : Prop :=
  ∃ conn ∈ m.unfolded_connections, ∃ record, db.chip_conn_tbl.objs conn.connection = some record ∧
    ((∃ top, conn.top_region = some top ∧ top.1 = i ∧ conn.bottom_region = none ∧
        other record.bottom_region) ∨
      ∃ bottom, conn.bottom_region = some bottom ∧ bottom.1 = i ∧ conn.top_region = none ∧
        other record.top_region)

/-- The other region is null in the database. -/
def Grounded (db : ChipDatabase) (m : UnfoldedModel) : Nat → Prop := MissingEnd db m (· = 0)

def Unresolved (db : ChipDatabase) (m : UnfoldedModel) : Nat → Prop := MissingEnd db m (· ≠ 0)

open Classical in
noncomputable def setOf (db : ChipDatabase) (m : UnfoldedModel) (i : Nat) : List Nat :=
  (List.range m.unfolded_chips.length).filter (OneSet db m i)

def IsSet (db : ChipDatabase) (m : UnfoldedModel) (set : List Nat) : Prop :=
  ∃ i < m.unfolded_chips.length, set = setOf db m i

/-- The sets without a grounded chip, once each; without any grounded chip all but a largest one. -/
structure FloatingExact (db : ChipDatabase) (m : UnfoldedModel) (sets : List (List Nat)) : Prop where
  once : sets.Nodup
  grounded : (∃ i, Grounded db m i) →
    ∀ set, set ∈ sets ↔ IsSet db m set ∧ ∀ i ∈ set, ¬ Grounded db m i
  ungrounded : (¬ ∃ i, Grounded db m i) → (m.unfolded_chips = [] ∧ sets = []) ∨
      ∃ largest, IsSet db m largest ∧ (∀ set, IsSet db m set → set.length ≤ largest.length) ∧
        ∀ set, set ∈ sets ↔ IsSet db m set ∧ set ≠ largest

/-- The sources are the instances that the chips end with. -/
def NamesInsts (m : UnfoldedModel) (chips : List Nat) (sources : Finset Nat) : Prop :=
  ∀ inst, inst ∈ sources ↔ ∃ i ∈ chips, ∃ chip, m.unfolded_chips[i]? = some chip ∧
    chip.chip_inst_path.getLast? = some inst

/-- The marker shows the box of each chip of the set and names their instances and the first. -/
structure MarksSet (m : UnfoldedModel) (set : List Nat) (marker : FloatingMarker) : Prop where
  shapes : Forall₂ (fun i box => ∃ chip, m.unfolded_chips[i]? = some chip ∧ box = chip.cuboid)
    set marker.shapes
  sources : NamesInsts m set marker.sources
  comment : ∃ first chip, set.head? = some first ∧ m.unfolded_chips[first]? = some chip ∧
    marker.comment = "Isolated chip set starting with " ++ chip.name

/-- The markers are those of the floating sets. -/
def FloatingReported (db : ChipDatabase) (m : UnfoldedModel)
    (sort : List (List Nat) → List (List Nat)) (markers : List FloatingMarker) : Prop :=
  FloatingExact db m (floatingGroups db m sort) ∧
    Forall₂ (MarksSet m) (floatingGroups db m sort) markers

section

variable {db : ChipDatabase} {m : UnfoldedModel} {sort : List (List Nat) → List (List Nat)}

/-- An end that was unfolded is a region of an unfolded chip. -/
def EndsKnown (db : ChipDatabase) (m : UnfoldedModel) : Prop :=
  ∀ conn ∈ m.unfolded_connections, ∃ record, db.chip_conn_tbl.objs conn.connection = some record ∧
    (∀ top, conn.top_region = some top → top.1 < m.unfolded_chips.length ∧ record.top_region ≠ 0) ∧
    ∀ bottom, conn.bottom_region = some bottom →
      bottom.1 < m.unfolded_chips.length ∧ record.bottom_region ≠ 0

lemma regionIn_inside {path : List Nat} {regionInst : Nat} {ptr : RegionPtr}
    (isIn : RegionIn m.keys path regionInst ptr) : ptr.1 < m.unfolded_chips.length := by
  rcases isIn with ⟨chip, _, found, _⟩
  have inside := (List.getElem?_eq_some_iff.mp found).1
  rwa [UnfoldedModel.keys, length_map] at inside

lemma unfold_endsKnown {fuel chipId : Nat} (linked : db.Linked)
    (done : unfold db fuel chipId = .ok m) : EndsKnown db m := by
  rcases (unfold_connects linked fuel done).2 with
    ⟨visits, _, _, connections, nets, each, adds, _⟩
  intro conn member
  rw [adds] at member
  have isConn := (List.mem_filter.mp member).1
  rcases forall₂_right each isConn with ⟨visit, _, isId, record, live, top, bottom⟩
  refine ⟨record, isId ▸ live, fun ptr isTop => ?_, fun ptr isBottom => ?_⟩
  · rcases (top ptr).mp isTop with ⟨nonzero, isIn⟩
    exact ⟨regionIn_inside isIn, nonzero⟩
  · rcases (bottom ptr).mp isBottom with ⟨nonzero, isIn⟩
    exact ⟨regionIn_inside isIn, nonzero⟩

lemma unfold_exact_chip {fuel chipId : Nat} (done : unfold db fuel chipId = .ok m)
    {chip : UnfoldedChip} (listed : chip ∈ m.unfolded_chips) :
    ∃ inst master, ExactChip db inst master chip.unmarked := by
  rcases except_bind_ok done with ⟨top, _, done⟩
  rcases except_bind_ok done with ⟨subs, doneSubs, done⟩
  rcases except_bind_ok done with ⟨connected, doneConns, doneNets⟩
  rcases foldlM_adds (fun id m m' done => buildUnfoldedChip_adds fuel id [] m m' done)
    top.chipinsts .empty subs doneSubs with ⟨added, same, stands⟩
  have unmarked : m.unmarked = added := by
    rw [unfoldNets_unmarked _ _ _ _ doneNets, unfoldConnections_unmarked _ _ _ _ doneConns, same]
    rfl
  have inAdded : chip.unmarked ∈ added := unmarked ▸ mem_map_of_mem listed
  rcases forall₂_right stands inAdded with ⟨_, _, _, inst, master, exact'⟩
  exact ⟨inst, master, exact'⟩

lemma namesInsts_leaves {fuel chipId : Nat} (done : unfold db fuel chipId = .ok m)
    (chips : List Nat) : NamesInsts m chips ((chips.filterMap (m.unfolded_chips[·]?)).map
      fun chip => chip.chip_inst_path.getLastD 0).toFinset := by
  have ends : ∀ {i : Nat} {chip : UnfoldedChip}, m.unfolded_chips[i]? = some chip →
      chip.chip_inst_path.getLast? = some (chip.chip_inst_path.getLastD 0) := by
    intro i chip there
    rcases unfold_exact_chip done (mem_of_getElem? there) with ⟨inst, master, exact'⟩
    rcases Option.bind_eq_some_iff.mp exact'.last with ⟨last, isLast, _⟩
    change chip.chip_inst_path.getLast? = some last at isLast
    rw [isLast, getLastD_eq_getLast?, isLast]
    rfl
  intro inst
  simp only [mem_toFinset, mem_map, mem_filterMap]
  constructor
  · rintro ⟨chip, ⟨i, member, there⟩, rfl⟩
    exact ⟨i, member, chip, there, ends there⟩
  · rintro ⟨i, member, chip, there, isLast⟩
    exact ⟨chip, ⟨i, member, there⟩, Option.some.inj ((ends there).symm.trans isLast)⟩

lemma floatingMarker_marks {fuel chipId : Nat} (done : unfold db fuel chipId = .ok m)
    {group : List Nat} (inside : ∀ i ∈ group, i < m.unfolded_chips.length) (some' : group ≠ []) :
    MarksSet m group (floatingMarker m group) where
  shapes := by
    rw [floatingMarker]
    clear some'
    induction group with
    | nil => exact .nil
    | cons i group ih =>
      rcases forall_mem_cons.mp inside with ⟨first, rest⟩
      rw [filterMap_cons_some (getElem?_eq_getElem first), map_cons]
      exact .cons ⟨_, getElem?_eq_getElem first, rfl⟩ (ih rest)
  sources := namesInsts_leaves done group
  comment := by
    cases group with
    | nil => exact absurd rfl some'
    | cons i group =>
      have first := inside i mem_cons_self
      refine ⟨i, _, rfl, getElem?_eq_getElem first, ?_⟩
      rw [floatingMarker, filterMap_cons_some (getElem?_eq_getElem first)]
      rfl

def Tied (m : UnfoldedModel) (i : Nat) : Prop :=
  ∃ conn ∈ m.unfolded_connections,
    (∃ top, conn.top_region = some top ∧ top.1 = i ∧ conn.bottom_region = none) ∨
      ∃ bottom, conn.bottom_region = some bottom ∧ bottom.1 = i ∧ conn.top_region = none

lemma tied_iff (known : EndsKnown db m) (i : Nat) :
    Tied m i ↔ Grounded db m i ∨ Unresolved db m i := by
  constructor
  · rintro ⟨conn, member, missing⟩
    rcases known conn member with ⟨record, live, _⟩
    rcases missing with ⟨top, isTop, isChip, none'⟩ | ⟨bottom, isBottom, isChip, none'⟩
    · by_cases null : record.bottom_region = 0
      · exact .inl ⟨conn, member, record, live, .inl ⟨top, isTop, isChip, none', null⟩⟩
      · exact .inr ⟨conn, member, record, live, .inl ⟨top, isTop, isChip, none', null⟩⟩
    · by_cases null : record.top_region = 0
      · exact .inl ⟨conn, member, record, live, .inr ⟨bottom, isBottom, isChip, none', null⟩⟩
      · exact .inr ⟨conn, member, record, live, .inr ⟨bottom, isBottom, isChip, none', null⟩⟩
  · rintro (⟨conn, member, _, _, missing⟩ | ⟨conn, member, _, _, missing⟩)
    · refine ⟨conn, member, missing.imp ?_ ?_⟩
      · exact fun ⟨top, isTop, isChip, none', _⟩ => ⟨top, isTop, isChip, none'⟩
      · exact fun ⟨bottom, isBottom, isChip, none', _⟩ => ⟨bottom, isBottom, isChip, none'⟩
    · refine ⟨conn, member, missing.imp ?_ ?_⟩
      · exact fun ⟨top, isTop, isChip, none', _⟩ => ⟨top, isTop, isChip, none'⟩
      · exact fun ⟨bottom, isBottom, isChip, none', _⟩ => ⟨bottom, isBottom, isChip, none'⟩

lemma tied_inside (known : EndsKnown db m) {i : Nat} (tied : Tied m i) :
    i < m.unfolded_chips.length := by
  rcases tied with ⟨conn, member, missing⟩
  rcases known conn member with ⟨_, _, tops, bottoms⟩
  rcases missing with ⟨top, isTop, isChip, _⟩ | ⟨bottom, isBottom, isChip, _⟩
  · exact isChip ▸ (tops top isTop).1
  · exact isChip ▸ (bottoms bottom isBottom).1

lemma linkedChips_inside (known : EndsKnown db m) {i j : Nat} (linked : LinkedChips db m i j) :
    i < m.unfolded_chips.length ∧ j < m.unfolded_chips.length := by
  rcases linked with ⟨conn, member, _, top, bottom, isTop, isBottom, ends⟩
  rcases known conn member with ⟨_, _, tops, bottoms⟩
  have topInside := (tops top isTop).1
  have bottomInside := (bottoms bottom isBottom).1
  rcases ends with ⟨rfl, rfl⟩ | ⟨rfl, rfl⟩
  · exact ⟨topInside, bottomInside⟩
  · exact ⟨bottomInside, topInside⟩

lemma LinkedChips.symm {i j : Nat} (linked : LinkedChips db m i j) : LinkedChips db m j i := by
  rcases linked with ⟨conn, member, valid, top, bottom, isTop, isBottom, ends⟩
  exact ⟨conn, member, valid, top, bottom, isTop, isBottom, ends.symm⟩

lemma OneSet.symm {i j : Nat} (one : OneSet db m i j) : OneSet db m j i := by
  induction one with
  | refl => exact Relation.ReflTransGen.refl
  | tail _ step ih => exact Relation.ReflTransGen.head step.symm ih

lemma oneSet_inside (known : EndsKnown db m) {i j : Nat} (one : OneSet db m i j)
    (inside : i < m.unfolded_chips.length) : j < m.unfolded_chips.length := by
  cases one with
  | refl => exact inside
  | tail _ step => exact (linkedChips_inside known step).2

def InGroundSet (db : ChipDatabase) (m : UnfoldedModel) (i : Nat) : Prop :=
  ∃ j, OneSet db m i j ∧ Tied m j

lemma inGroundSet_of_oneSet {i j : Nat} (one : OneSet db m i j) (ground : InGroundSet db m j) :
    InGroundSet db m i := by
  rcases ground with ⟨k, related, tied⟩
  exact ⟨k, one.trans related, tied⟩

lemma mem_unitedPairs (known : EndsKnown db m) (a b : Nat) : (a, b) ∈ unitedPairs db m ↔
      (∃ conn ∈ m.unfolded_connections, isValid db m conn = true ∧ ∃ top bottom,
        conn.top_region = some top ∧ conn.bottom_region = some bottom ∧ top.1 = a ∧ bottom.1 = b) ∨
      Tied m a ∧ b = m.unfolded_chips.length := by
  rw [unitedPairs, mem_filterMap]
  constructor
  · rintro ⟨conn, member, united⟩
    rw [unitedPair] at united
    split at united
    · rename_i valid
      split at united
      · rename_i top bottom isTop isBottom
        split at united
        · cases united
          exact .inl ⟨conn, member, valid, top, bottom, isTop, isBottom, rfl, rfl⟩
        · cases united
      · rename_i region isTop isBottom
        split at united
        · cases united
          exact .inr ⟨⟨conn, member, .inl ⟨region, isTop, rfl, isBottom⟩⟩, rfl⟩
        · cases united
      · rename_i region isTop isBottom
        split at united
        · cases united
          exact .inr ⟨⟨conn, member, .inr ⟨region, isBottom, rfl, isTop⟩⟩, rfl⟩
        · cases united
      · cases united
    · cases united
  · rintro (⟨conn, member, valid, top, bottom, isTop, isBottom, rfl, rfl⟩ | ⟨⟨conn, member, missing⟩, rfl⟩)
    · rcases known conn member with ⟨_, _, tops, bottoms⟩
      refine ⟨conn, member, ?_⟩
      simp only [unitedPair, valid, isTop, isBottom, if_true,
        if_pos (And.intro (tops top isTop).1 (bottoms bottom isBottom).1)]
    · rcases known conn member with ⟨_, _, tops, bottoms⟩
      refine ⟨conn, member, ?_⟩
      rcases missing with ⟨top, isTop, rfl, none'⟩ | ⟨bottom, isBottom, rfl, none'⟩
      · simp only [unitedPair, isValid, isTop, none', if_true, if_pos (tops top isTop).1]
      · simp only [unitedPair, isValid, isBottom, none', if_true, if_pos (bottoms bottom isBottom).1]

lemma eqvGen_united (known : EndsKnown db m) (a b : Nat) :
    Relation.EqvGen (fun a b => (a, b) ∈ unitedPairs db m) a b ↔
      OneSet db m a b ∨ (a = m.unfolded_chips.length ∨ InGroundSet db m a) ∧
        (b = m.unfolded_chips.length ∨ InGroundSet db m b) := by
  have ofGround : ∀ u v, OneSet db m u v → (v = m.unfolded_chips.length ∨ InGroundSet db m v) →
      (u = m.unfolded_chips.length ∨ InGroundSet db m u) := by
    rintro u v one (isGround | ground)
    · cases one with
      | refl => exact .inl isGround
      | tail _ step =>
        have inside := (linkedChips_inside known step).2
        omega
    · exact .inr (inGroundSet_of_oneSet one ground)
  constructor
  · intro related
    induction related with
    | rel u v member =>
      rcases (mem_unitedPairs known u v).mp member with
        ⟨conn, isConn, valid, top, bottom, isTop, isBottom, isU, isV⟩ | ⟨tied, isGround⟩
      · exact .inl (Relation.ReflTransGen.single
          ⟨conn, isConn, valid, top, bottom, isTop, isBottom, .inl ⟨isU, isV⟩⟩)
      · exact .inr ⟨.inr ⟨u, Relation.ReflTransGen.refl, tied⟩, .inl isGround⟩
    | refl u => exact .inl Relation.ReflTransGen.refl
    | symm u v _ ih => exact ih.imp OneSet.symm And.symm
    | trans u v w _ _ first second =>
      rcases first with one | ⟨ofU, ofV⟩
      · rcases second with other | ⟨ofV, ofW⟩
        · exact .inl (one.trans other)
        · exact .inr ⟨ofGround u v one ofV, ofW⟩
      · rcases second with other | ⟨_, ofW⟩
        · exact .inr ⟨ofU, ofGround w v other.symm ofV⟩
        · exact .inr ⟨ofU, ofW⟩
  · have ofSet : ∀ u v, OneSet db m u v →
        Relation.EqvGen (fun a b => (a, b) ∈ unitedPairs db m) u v := by
      intro u v one
      induction one with
      | refl => exact .refl _
      | tail _ step ih =>
        rcases step with ⟨conn, isConn, valid, top, bottom, isTop, isBottom, ends⟩
        refine .trans _ _ _ ih ?_
        rcases ends with ⟨isU, isV⟩ | ⟨isV, isU⟩
        · exact .rel _ _ ((mem_unitedPairs known _ _).mpr
            (.inl ⟨conn, isConn, valid, top, bottom, isTop, isBottom, isU, isV⟩))
        · exact .symm _ _ (.rel _ _ ((mem_unitedPairs known _ _).mpr
            (.inl ⟨conn, isConn, valid, top, bottom, isTop, isBottom, isV, isU⟩)))
    have toGround : ∀ u, (u = m.unfolded_chips.length ∨ InGroundSet db m u) →
        Relation.EqvGen (fun a b => (a, b) ∈ unitedPairs db m) u m.unfolded_chips.length := by
      rintro u (rfl | ⟨j, one, tied⟩)
      · exact .refl _
      · exact .trans _ _ _ (ofSet u j one)
          (.rel _ _ ((mem_unitedPairs known _ _).mpr (.inr ⟨tied, rfl⟩)))
    rintro (one | ⟨ofA, ofB⟩)
    · exact ofSet a b one
    · exact .trans _ _ _ (toGround a ofA) (.symm _ _ (toGround b ofB))

lemma foldl_groupChip {N : Nat} {rep : Nat → Nat} (chips : List Nat)
    (inside : ∀ i ∈ chips, i < N) :
    ∀ (uf : UnionFind) (groups : List (List Nat)), UnionFind.Represents N uf rep →
      UnionFind.Represents N (chips.foldl groupChip (uf, groups)).1 rep ∧
      (chips.foldl groupChip (uf, groups)).2 =
        chips.foldl (fun groups i => groups.modify (rep i) (· ++ [i])) groups := by
  induction chips with
  | nil => exact fun _ _ represents => ⟨represents, rfl⟩
  | cons i rest ih =>
    intro uf groups represents
    rcases UnionFind.find_spec represents (inside i mem_cons_self) with ⟨found, after, _⟩
    rw [foldl_cons, foldl_cons, groupChip, found]
    exact ih (fun j member => inside j (mem_cons_of_mem _ member)) _ _ after

lemma nodup_of_apart {groups : List (List Nat)} (apart : groups.Pairwise List.Disjoint)
    (nonempty : ∀ group ∈ groups, group ≠ []) : groups.Nodup := by
  refine apart.imp_of_mem fun {a b} aMember _ disjoint same => ?_
  rcases exists_mem_of_ne_nil a (nonempty a aMember) with ⟨i, member⟩
  exact disjoint member (same ▸ member)

lemma mem_setOf {i j : Nat} :
    j ∈ setOf db m i ↔ j < m.unfolded_chips.length ∧ OneSet db m i j := by
  rw [setOf, mem_filter, mem_range]
  simp only [decide_eq_true_eq]

lemma looseGroups_spec (known : EndsKnown db m) : (looseGroups db m).1.Nodup ∧
    (∀ set, set ∈ (looseGroups db m).1 ↔
      ∃ i < m.unfolded_chips.length, ¬ InGroundSet db m i ∧ set = setOf db m i) ∧
    ((looseGroups db m).2 = true ↔ ∀ i < m.unfolded_chips.length, ¬ InGroundSet db m i) := by
  have pairsInside : ∀ p ∈ unitedPairs db m,
      p.1 < m.unfolded_chips.length + 1 ∧ p.2 < m.unfolded_chips.length + 1 := by
    rintro ⟨a, b⟩ member
    rcases (mem_unitedPairs known a b).mp member with
      ⟨conn, isConn, _, top, bottom, isTop, isBottom, rfl, rfl⟩ | ⟨tied, rfl⟩
    · rcases known conn isConn with ⟨_, _, tops, bottoms⟩
      exact ⟨Nat.lt_succ_of_lt (tops top isTop).1, Nat.lt_succ_of_lt (bottoms bottom isBottom).1⟩
    · exact ⟨Nat.lt_succ_of_lt (tied_inside known tied), Nat.lt_succ_self _⟩
  rcases UnionFind.unites_represents (unitedPairs db m) pairsInside with
    ⟨rep, represents, classes⟩
  rcases foldl_groupChip (List.range m.unfolded_chips.length)
    (fun i member => Nat.lt_succ_of_lt (List.mem_range.mp member)) _
    (List.replicate (m.unfolded_chips.length + 1) []) represents with ⟨after, grouped⟩
  have found := (UnionFind.find_spec after (Nat.lt_succ_self m.unfolded_chips.length)).1
  have groups : (List.range m.unfolded_chips.length).foldl
      (fun groups i => groups.modify (rep i) (· ++ [i]))
      (List.replicate (m.unfolded_chips.length + 1) []) =
      (List.range (m.unfolded_chips.length + 1)).map fun r =>
        (List.range m.unfolded_chips.length).filter fun i => rep i = r := by
    apply ext_getElem?
    intro r
    rw [Tally.getElem?_groups, List.getElem?_map]
    split
    · rename_i inside
      rw [List.getElem?_range inside]
      rfl
    · rename_i outside
      rw [List.getElem?_eq_none_iff.mpr (by rw [length_range]; omega)]
      rfl
  have shape : looseGroups db m = ((((List.range (m.unfolded_chips.length + 1)).map fun r =>
          (List.range m.unfolded_chips.length).filter fun i => rep i = r).eraseIdx
        (rep m.unfolded_chips.length)).filter fun group => ¬ group.isEmpty,
      (((List.range (m.unfolded_chips.length + 1)).map fun r =>
        (List.range m.unfolded_chips.length).filter fun i => rep i = r).getD
          (rep m.unfolded_chips.length) []).isEmpty) := by
    rw [looseGroups, found, grouped, groups]
  have groundRep : ∀ i < m.unfolded_chips.length,
      (rep i = rep m.unfolded_chips.length ↔ InGroundSet db m i) := by
    intro i inside
    rw [classes, eqvGen_united known]
    constructor
    · rintro (one | ⟨isGround | ground, _⟩)
      · have bound := oneSet_inside known one inside
        omega
      · omega
      · exact ground
    · exact fun ground => .inr ⟨.inr ground, .inl rfl⟩
  have sameSet : ∀ i < m.unfolded_chips.length, ¬ InGroundSet db m i →
      ((List.range m.unfolded_chips.length).filter fun j => rep j = rep i) = setOf db m i := by
    intro i inside loose
    rw [setOf]
    apply filter_congr
    intro j member
    rw [decide_eq_decide, classes, eqvGen_united known]
    constructor
    · rintro (one | ⟨_, isGround | ground⟩)
      · exact one.symm
      · omega
      · exact absurd ground loose
    · exact fun one => .inl one.symm
  rw [shape]
  refine ⟨?_, fun set => ?_, ?_⟩
  · apply nodup_of_apart
    · refine List.Pairwise.filter _ (List.Pairwise.sublist (eraseIdx_sublist _ _) ?_)
      rw [pairwise_map]
      refine List.nodup_range.imp fun {r r'} differs i member member' => differs ?_
      rw [mem_filter, decide_eq_true_eq] at member member'
      exact member.2.symm.trans member'.2
    · intro group member
      rw [mem_filter, decide_eq_true_eq, List.isEmpty_iff] at member
      exact member.2
  · rw [mem_filter, mem_eraseIdx_iff_getElem?, decide_eq_true_eq, List.isEmpty_iff]
    constructor
    · rintro ⟨⟨r, other, isGroup⟩, nonempty⟩
      rw [List.getElem?_map, Option.map_eq_some_iff] at isGroup
      rcases isGroup with ⟨r', isRoot, rfl⟩
      rcases List.getElem?_eq_some_iff.mp isRoot with ⟨_, rfl⟩
      rw [getElem_range] at nonempty ⊢
      rcases exists_mem_of_ne_nil _ nonempty with ⟨i, member⟩
      rw [mem_filter, mem_range, decide_eq_true_eq] at member
      have loose : ¬ InGroundSet db m i := fun ground =>
        other (member.2.symm.trans ((groundRep i member.1).mpr ground))
      refine ⟨i, member.1, loose, ?_⟩
      rw [← member.2]
      exact sameSet i member.1 loose
    · rintro ⟨i, inside, loose, rfl⟩
      refine ⟨⟨rep i, fun same => loose ((groundRep i inside).mp same), ?_⟩, ?_⟩
      · rw [List.getElem?_map, List.getElem?_range
          (represents.rep_lt i (Nat.lt_succ_of_lt inside)), Option.map_some, sameSet i inside loose]
      · exact ne_nil_of_mem (mem_setOf.mpr ⟨inside, Relation.ReflTransGen.refl⟩)
  · rw [List.getD_eq_getElem?_getD, List.getElem?_map, List.getElem?_range
      (represents.rep_lt _ (Nat.lt_succ_self _)), Option.map_some, Option.getD_some,
      List.isEmpty_iff, filter_eq_nil_iff]
    refine forall_congr' fun i => ?_
    rw [mem_range, decide_eq_true_eq]
    exact imp_congr_right fun inside => not_congr (groundRep i inside)

lemma floatingGroups_nodup (known : EndsKnown db m) (sorts : SortsBySize sort) :
    (floatingGroups db m sort).Nodup := by
  have nodup := (sorts.perm (looseGroups db m).1).nodup_iff.mpr (looseGroups_spec known).1
  rw [floatingGroups, nodup_reverse]
  split
  · exact nodup.sublist (dropLast_sublist _)
  · exact nodup

lemma floatingGroups_tied (known : EndsKnown db m) (sorts : SortsBySize sort) {i : Nat}
    (inside : i < m.unfolded_chips.length) (ground : InGroundSet db m i) (set : List Nat) :
    set ∈ floatingGroups db m sort ↔
      ∃ i < m.unfolded_chips.length, ¬ InGroundSet db m i ∧ set = setOf db m i := by
  rcases looseGroups_spec known with ⟨_, members, empty⟩
  rw [floatingGroups, mem_reverse, if_neg fun all => empty.mp all i inside ground,
    (sorts.perm _).mem_iff, members]

lemma floatingGroups_untied (known : EndsKnown db m) (sorts : SortsBySize sort)
    (untied : ∀ i < m.unfolded_chips.length, ¬ InGroundSet db m i) :
    (m.unfolded_chips = [] ∧ floatingGroups db m sort = []) ∨
      ∃ largest, IsSet db m largest ∧ (∀ set, IsSet db m set → set.length ≤ largest.length) ∧
        ∀ set, set ∈ floatingGroups db m sort ↔ IsSet db m set ∧ set ≠ largest := by
  rcases looseGroups_spec known with ⟨nodup, members, empty⟩
  have isSet : ∀ set, set ∈ sort (looseGroups db m).1 ↔ IsSet db m set := by
    intro set
    rw [(sorts.perm _).mem_iff, members]
    exact exists_congr fun i => and_congr_right fun inside => and_iff_right (untied i inside)
  have sorted := sorts.sorted (looseGroups db m).1
  have sortedNodup := (sorts.perm (looseGroups db m).1).nodup_iff.mpr nodup
  rw [floatingGroups, if_pos (empty.mpr untied)]
  generalize sort (looseGroups db m).1 = groups at isSet sorted sortedNodup ⊢
  cases groups using List.reverseRecOn with
  | nil =>
    refine .inl ⟨?_, rfl⟩
    by_contra some'
    have first : IsSet db m (setOf db m 0) := ⟨0, length_pos_of_ne_nil some', rfl⟩
    exact not_mem_nil ((isSet _).mpr first)
  | append_singleton front largest =>
    rw [nodup_append] at sortedNodup
    refine .inr ⟨largest, (isSet _).mp (mem_append_right _ (List.mem_singleton.mpr rfl)),
      fun set member => ?_, fun set => ?_⟩
    · rcases List.mem_append.mp ((isSet set).mpr member) with early | last
      · exact (List.pairwise_append.mp sorted).2.2 set early largest (List.mem_singleton.mpr rfl)
      · rw [List.mem_singleton.mp last]
    · rw [mem_reverse, dropLast_concat, ← isSet, mem_append, mem_singleton]
      constructor
      · exact fun early => ⟨.inl early, sortedNodup.2.2 set early largest
          (List.mem_singleton.mpr rfl)⟩
      · exact fun both => both.1.resolve_right both.2

lemma setOf_eq_iff {i j : Nat} (inside : i < m.unfolded_chips.length) :
    setOf db m i = setOf db m j ↔ OneSet db m i j := by
  constructor
  · intro same
    have own : i ∈ setOf db m i := mem_setOf.mpr ⟨inside, Relation.ReflTransGen.refl⟩
    rw [same, mem_setOf] at own
    exact own.2.symm
  · intro one
    rw [setOf, setOf]
    apply filter_congr
    intro k _
    rw [decide_eq_decide]
    exact ⟨fun related => one.symm.trans related, fun related => one.trans related⟩

/-- Chips tied by an unresolved end are in grounded sets, or make up the largest set. -/
def UnresolvedHarmless (db : ChipDatabase) (m : UnfoldedModel) : Prop :=
  ((∃ i, Grounded db m i) ∧ ∀ i, Unresolved db m i → ∃ j, OneSet db m i j ∧ Grounded db m j) ∨
  ((¬ ∃ i, Grounded db m i) ∧ ((∀ i, ¬ Unresolved db m i) ∨
    ∃ i, Unresolved db m i ∧ (∀ j, Unresolved db m j → OneSet db m i j) ∧
      ∀ j < m.unfolded_chips.length, (setOf db m j).length ≤ (setOf db m i).length))

lemma floatingGroups_exact_iff (known : EndsKnown db m) (sorts : SortsBySize sort) :
    FloatingExact db m (floatingGroups db m sort) ↔ UnresolvedHarmless db m := by
  have tied := tied_iff known
  have inGround : ∀ i, InGroundSet db m i ↔
      ∃ j, OneSet db m i j ∧ (Grounded db m j ∨ Unresolved db m j) := fun i =>
    exists_congr fun j => and_congr_right fun _ => tied j
  have inside : ∀ i, Grounded db m i ∨ Unresolved db m i → i < m.unfolded_chips.length :=
    fun i either => tied_inside known ((tied i).mpr either)
  by_cases some' : ∃ i, Grounded db m i
  · rcases some' with ⟨g, isGrounded⟩
    have gInside := inside g (.inl isGrounded)
    have members := floatingGroups_tied known sorts gInside
      ((inGround g).mpr ⟨g, Relation.ReflTransGen.refl, .inl isGrounded⟩)
    constructor
    · intro exact'
      refine .inl ⟨⟨g, isGrounded⟩, fun i unresolved => ?_⟩
      by_contra none'
      have isFloating := (exact'.grounded ⟨g, isGrounded⟩ (setOf db m i)).mpr
        ⟨⟨i, inside i (.inr unresolved), rfl⟩, fun j member ground =>
          none' ⟨j, (mem_setOf.mp member).2, ground⟩⟩
      rcases (members _).mp isFloating with ⟨j, _, loose, same⟩
      have one := (setOf_eq_iff (inside i (.inr unresolved))).mp same
      exact loose ((inGround j).mpr ⟨i, one.symm, .inr unresolved⟩)
    · rintro (⟨_, harmless⟩ | ⟨none', _⟩)
      · refine ⟨floatingGroups_nodup known sorts, fun _ set => ?_, fun none' =>
          absurd ⟨g, isGrounded⟩ none'⟩
        rw [members]
        constructor
        · rintro ⟨i, iInside, loose, rfl⟩
          refine ⟨⟨i, iInside, rfl⟩, fun j member ground => loose ((inGround i).mpr ?_)⟩
          exact ⟨j, (mem_setOf.mp member).2, .inl ground⟩
        · rintro ⟨⟨i, iInside, rfl⟩, noGround⟩
          refine ⟨i, iInside, fun ground => ?_, rfl⟩
          rcases (inGround i).mp ground with ⟨j, one, isGround | unresolved⟩
          · exact noGround j (mem_setOf.mpr ⟨inside j (.inl isGround), one⟩) isGround
          · rcases harmless j unresolved with ⟨k, related, isGround⟩
            exact noGround k (mem_setOf.mpr ⟨inside k (.inl isGround), one.trans related⟩) isGround
      · exact absurd ⟨g, isGrounded⟩ none'
  · have onlyUnresolved : ∀ i, InGroundSet db m i ↔ ∃ j, OneSet db m i j ∧ Unresolved db m j := by
      intro i
      rw [inGround]
      exact exists_congr fun j => and_congr_right fun _ =>
        or_iff_right fun ground => some' ⟨j, ground⟩
    by_cases anyUnresolved : ∃ i, Unresolved db m i
    · rcases anyUnresolved with ⟨u, isUnresolved⟩
      have uInside := inside u (.inr isUnresolved)
      have members := floatingGroups_tied known sorts uInside
        ((onlyUnresolved u).mpr ⟨u, Relation.ReflTransGen.refl, isUnresolved⟩)
      have notFloating : ∀ i, Unresolved db m i → setOf db m i ∉ floatingGroups db m sort := by
        intro i unresolved member
        rcases (members _).mp member with ⟨j, _, loose, same⟩
        have one := (setOf_eq_iff (inside i (.inr unresolved))).mp same
        exact loose ((onlyUnresolved j).mpr ⟨i, one.symm, unresolved⟩)
      constructor
      · intro exact'
        rcases exact'.ungrounded some' with ⟨none', _⟩ | ⟨largest, _, isLargest, left⟩
        · rw [none'] at uInside
          cases uInside
        · have isLeft : ∀ i, Unresolved db m i → setOf db m i = largest := by
            intro i unresolved
            by_contra other
            exact notFloating i unresolved
              ((left _).mpr ⟨⟨i, inside i (.inr unresolved), rfl⟩, other⟩)
          refine .inr ⟨some', .inr ⟨u, isUnresolved, fun j unresolved => ?_,
            fun j jInside => ?_⟩⟩
          · exact (setOf_eq_iff uInside).mp
              ((isLeft u isUnresolved).trans (isLeft j unresolved).symm)
          · rw [isLeft u isUnresolved]
            exact isLargest _ ⟨j, jInside, rfl⟩
      · rintro (⟨ground, _⟩ | ⟨_, none' | ⟨i, unresolved, one, isLargest⟩⟩)
        · exact absurd ground some'
        · exact absurd isUnresolved (none' u)
        · have iInside := inside i (.inr unresolved)
          refine ⟨floatingGroups_nodup known sorts, fun ground => absurd ground some',
            fun _ => .inr ⟨setOf db m i, ⟨i, iInside, rfl⟩, ?_, fun set => ?_⟩⟩
          · rintro set ⟨j, jInside, rfl⟩
            exact isLargest j jInside
          · rw [members]
            constructor
            · rintro ⟨j, jInside, loose, rfl⟩
              refine ⟨⟨j, jInside, rfl⟩, fun same => loose ((onlyUnresolved j).mpr ?_)⟩
              exact ⟨i, (setOf_eq_iff jInside).mp same, unresolved⟩
            · rintro ⟨⟨j, jInside, rfl⟩, other⟩
              refine ⟨j, jInside, fun ground => other ?_, rfl⟩
              rcases (onlyUnresolved j).mp ground with ⟨k, related, unresolved'⟩
              exact (setOf_eq_iff jInside).mpr (related.trans (one k unresolved').symm)
    · have untied : ∀ i < m.unfolded_chips.length, ¬ InGroundSet db m i := by
        intro i _ ground
        rcases (onlyUnresolved i).mp ground with ⟨j, _, unresolved⟩
        exact anyUnresolved ⟨j, unresolved⟩
      refine iff_of_true ⟨floatingGroups_nodup known sorts, fun ground => absurd ground some',
        fun _ => floatingGroups_untied known sorts untied⟩ ?_
      exact .inr ⟨some', .inl fun i unresolved => anyUnresolved ⟨i, unresolved⟩⟩

open Classical in
noncomputable def setsToReport (db : ChipDatabase) (m : UnfoldedModel) : Nat :=
  {set | IsSet db m set ∧ ∀ i ∈ set, ¬ Grounded db m i}.ncard -
    if ∃ i, Grounded db m i then 0 else 1

lemma ncard_of_nodup {sets : List (List Nat)} {S : Set (List Nat)} (nodup : sets.Nodup)
    (members : ∀ set, set ∈ sets ↔ set ∈ S) : S.ncard = sets.length := by
  have same : S = (sets.toFinset : Set (List Nat)) := by
    ext set
    rw [coe_toFinset]
    exact (members set).symm
  rw [same, Set.ncard_coe_finset, toFinset_card_of_nodup nodup]

lemma setsToReport_eq {sets : List (List Nat)} (exact' : FloatingExact db m sets) :
    setsToReport db m = sets.length := by
  rw [setsToReport]
  split
  · rename_i some'
    exact ncard_of_nodup exact'.once (exact'.grounded some')
  · rename_i none'
    have ungrounded : ∀ set, (IsSet db m set ∧ ∀ i ∈ set, ¬ Grounded db m i) ↔ IsSet db m set :=
      fun set => and_iff_left fun i _ ground => none' ⟨i, ground⟩
    rcases exact'.ungrounded none' with ⟨noChips, noSets⟩ | ⟨largest, isSet, _, left⟩
    · have empty : {set | IsSet db m set ∧ ∀ i ∈ set, ¬ Grounded db m i} = ∅ := by
        refine Set.eq_empty_of_forall_notMem fun set member => ?_
        rcases member.1 with ⟨i, inside, _⟩
        rw [noChips] at inside
        cases inside
      rw [empty, noSets, Set.ncard_empty, length_nil]
    · have count : {set | IsSet db m set ∧ ∀ i ∈ set, ¬ Grounded db m i}.ncard =
          (largest :: sets).length := by
        refine ncard_of_nodup (List.nodup_cons.mpr ⟨fun member => ?_, exact'.once⟩) fun set => ?_
        · exact absurd rfl ((left largest).mp member).2
        · rw [Set.mem_ofPred_eq, ungrounded, mem_cons, left]
          by_cases same : set = largest
          · exact iff_of_true (.inl same) (same ▸ isSet)
          · exact ⟨fun either => (either.resolve_left same).1, fun member => .inr ⟨member, same⟩⟩
      rw [count, length_cons, Nat.add_sub_cancel]

end

lemma floatingGroups_inside (known : EndsKnown db m) (sorts : SortsBySize sort)
    {group : List Nat} (member : group ∈ floatingGroups db m sort) :
    (∀ i ∈ group, i < m.unfolded_chips.length) ∧ group ≠ [] := by
  rw [floatingGroups, mem_reverse] at member
  have listed : group ∈ (looseGroups db m).1 := by
    rw [← (sorts.perm _).mem_iff]
    split at member
    · exact mem_of_mem_dropLast member
    · exact member
  rcases ((looseGroups_spec known).2.1 group).mp listed with ⟨i, inside, _, rfl⟩
  exact ⟨fun j isIn => (mem_setOf.mp isIn).1,
    ne_nil_of_mem (mem_setOf.mpr ⟨inside, Relation.ReflTransGen.refl⟩)⟩

/-- The report is exact if ends that were not unfolded do no harm and there is a marker for each
set. -/
theorem floating_exact_iff (db : ChipDatabase) (linked : db.Linked)
    (acyclic : Terminates db.hierarchy.Contains) (chipId : Nat) (top : DbChip)
    (there : db.chip_tbl.objs chipId = some top) :
    ∃ m bound, (∀ fuel, bound ≤ fuel → unfold db fuel chipId = .ok m) ∧ ∀ sort, SortsBySize sort →
        ((∃ markers, checkFloatingChips db m sort = some markers ∧
            FloatingReported db m sort markers) ↔
          UnresolvedHarmless db m ∧ setsToReport db m ≤ maxMarkers) := by
  rcases unfold_returns linked.toSound acyclic chipId top there with ⟨m, bound, same⟩
  have done := same bound (le_refl bound)
  have known := unfold_endsKnown linked done
  refine ⟨m, bound, same, fun sort sorts => ?_⟩
  have iff := floatingGroups_exact_iff known sorts
  constructor
  · rintro ⟨markers, reported, exact', _⟩
    rw [checkFloatingChips] at reported
    split at reported
    · rename_i enough
      refine ⟨iff.mp exact', ?_⟩
      rw [setsToReport_eq exact']
      exact enough
    · cases reported
  · rintro ⟨harmless, enough⟩
    have exact' := iff.mpr harmless
    rw [setsToReport_eq exact'] at enough
    refine ⟨_, by rw [checkFloatingChips, if_pos enough], exact', ?_⟩
    rw [forall₂_map_right_iff, forall₂_same]
    intro group member
    have inside := floatingGroups_inside known sorts member
    exact floatingMarker_marks done inside.1 inside.2

def insertionSorted (groups : List (List Nat)) : List (List Nat) :=
  groups.insertionSort fun a b => a.length ≤ b.length

lemma insertionSorted_sorts : SortsBySize insertionSorted where
  perm := fun groups => perm_insertionSort _ groups
  sorted := fun groups => by
    have total : Std.Total fun a b : List Nat => a.length ≤ b.length :=
      ⟨fun a b => Nat.le_total a.length b.length⟩
    have trans : IsTrans (List Nat) fun a b => a.length ≤ b.length := ⟨fun a b c => Nat.le_trans⟩
    exact pairwise_insertionSort _ groups

theorem floating_exact_iff_sample :
    ∃ m bound, (∀ fuel, bound ≤ fuel → unfold bridgedDatabase fuel 1 = .ok m) ∧
      ∀ sort, SortsBySize sort →
        ((∃ markers, checkFloatingChips bridgedDatabase m sort = some markers ∧
            FloatingReported bridgedDatabase m sort markers) ↔
          UnresolvedHarmless bridgedDatabase m ∧ setsToReport bridgedDatabase m ≤ maxMarkers) :=
  floating_exact_iff bridgedDatabase bridgedDatabase_linked bridgedDatabase_terminates 1 _ rfl

/-- The inner die has a connection to the region of the hierarchical chip as well. -/
def doublyBridgedDatabase : ChipDatabase :=
  { bridgedDatabase with
    chip_tbl := tableOf [
      { newChip "top" .HIER 0 with chipinsts := [2, 1], conns := [2, 1] },
      { newChip "stack" .HIER 0 with
        chipinsts := [3]
        chip_region_map := [("cover", 1)]
        chip_region_tbl := tableOf [newRegion "cover" .FRONT 0] },
      { newChip "die" .DIE 1 with
        chip_region_map := [("front", 1)]
        chip_region_tbl := tableOf [newRegion "front" .FRONT 0] }]
    chip_conn_tbl := tableOf [⟨"bridge", 0, 1, 1, 2, [1], [2]⟩,
      ⟨"inner_bridge", 0, 1, 3, 2, [2, 3], [2]⟩] }

lemma doublyBridgedDatabase_linked : doublyBridgedDatabase.Linked where
  nodup := tableOf_all (by decide)
  insts := tableOf_live DbChip.chipinsts rfl
  conns := tableOf_live DbChip.conns rfl
  nets := tableOf_live DbChip.nets rfl
  masters := fun id inst live =>
    tableOf_live (fun inst => [inst.master_chip]) rfl id inst live _ mem_cons_self
  regionInsts := by
    apply tableOf_all
    simp only [forall_mem_cons, newChipInst, not_mem_nil, false_implies, implies_true,
      and_true]
    exact ⟨⟨_, _, rfl, rfl⟩, ⟨_, _, rfl, rfl⟩, ⟨_, _, rfl, rfl⟩⟩
  bumpInsts := by
    apply tableOf_all
    simp only [forall_mem_cons, not_mem_nil, false_implies, implies_true, and_true]
  regions_nodup := bridgedDatabase_linked.regions_nodup
  bumps_nodup := bridgedDatabase_linked.bumps_nodup
  bump_owner := bridgedDatabase_linked.bump_owner
  children := by
    intro id inst live parent there
    rcases id with _ | _ | _ | _ | _
    · cases live
    · cases live
      cases there
      decide
    · cases live
      cases there
      decide
    · cases live
      cases there
      decide
    · cases live
  region_listed := bridgedDatabase_linked.region_listed
  bump_listed := bridgedDatabase_linked.bump_listed

lemma doublyBridgedDatabase_checked : doublyBridgedDatabase.Checked where
  top := by
    intro chipId chip there id listed conn live
    match chipId with
    | 0 => cases there
    | 1 =>
      cases there
      rcases List.mem_pair.mp listed with rfl | rfl
      · cases live
        exact ⟨by decide, ⟨_, rfl, rfl, _, rfl, rfl, trivial⟩, _, _, rfl, rfl, rfl⟩
      · cases live
        exact ⟨by decide, ⟨_, rfl, rfl, trivial⟩, _, _, rfl, rfl, rfl⟩
    | 2 | 3 =>
      cases there
      cases listed
    | _ + 4 => cases there
  bottom := by
    intro chipId chip there id listed conn live _
    match chipId with
    | 0 => cases there
    | 1 =>
      cases there
      rcases List.mem_pair.mp listed with rfl | rfl
      · cases live
        exact ⟨⟨_, rfl, rfl, trivial⟩, _, _, rfl, rfl, rfl⟩
      · cases live
        exact ⟨⟨_, rfl, rfl, trivial⟩, _, _, rfl, rfl, rfl⟩
    | 2 | 3 =>
      cases there
      cases listed
    | _ + 4 => cases there
  nets := by
    intro chipId chip _ id _ net live
    cases live

lemma doublyBridgedDatabase_terminates : Terminates doublyBridgedDatabase.hierarchy.Contains := by
  apply terminates_of_rank fun id => 3 - id
  rintro a b ⟨list, there, id, member, parent, live⟩
  match a with
  | 0 => cases there
  | 1 =>
    cases there
    rcases List.mem_pair.mp member with rfl | rfl
    · cases live
      decide
    · cases live
      decide
  | 2 =>
    cases there
    cases List.mem_singleton.mp member
    cases live
    decide
  | 3 =>
    cases there
    cases member
  | _ + 4 => cases there

/-- Neither of two dies is tied to the other or grounded, and the check reports nothing. -/
theorem unresolved_ends_hide_floating_chips :
    doublyBridgedDatabase.Linked ∧ doublyBridgedDatabase.Checked ∧
      Terminates doublyBridgedDatabase.hierarchy.Contains ∧
      ∃ m, unfold doublyBridgedDatabase 3 1 = .ok m ∧ SortsBySize insertionSorted ∧
        checkFloatingChips doublyBridgedDatabase m insertionSorted = some [] ∧
        ¬ FloatingReported doublyBridgedDatabase m insertionSorted [] := by
  refine ⟨doublyBridgedDatabase_linked, doublyBridgedDatabase_checked,
    doublyBridgedDatabase_terminates, ?_⟩
  have shows : (unfold doublyBridgedDatabase 3 1).toOption.map (fun m =>
      (m.unfolded_connections, m.unfolded_chips.length,
        (checkFloatingChips doublyBridgedDatabase m insertionSorted).map List.length)) =
      some ([⟨2, some (0, 0), none⟩, ⟨1, some (1, 0), none⟩], 2, some 0) := by
    decide
  cases done : unfold doublyBridgedDatabase 3 1 with
  | error fault =>
    rw [done] at shows
    cases shows
  | ok m =>
    rw [done] at shows
    have shown := Option.some.inj shows
    have isConn : m.unfolded_connections = [⟨2, some (0, 0), none⟩, ⟨1, some (1, 0), none⟩] :=
      congrArg Prod.fst shown
    have chips : m.unfolded_chips.length = 2 := congrArg (fun p => p.2.1) shown
    have noBottom : ∀ conn ∈ m.unfolded_connections, conn.bottom_region = none := by
      rw [isConn]
      decide
    have noGround : ¬ ∃ i, Grounded doublyBridgedDatabase m i := by
      rintro ⟨i, conn, member, record, live, ⟨_, _, _, _, null⟩ | ⟨_, there, _⟩⟩
      · rw [isConn] at member
        rcases List.mem_pair.mp member with rfl | rfl
        · cases live
          cases null
        · cases live
          cases null
      · rw [noBottom conn member] at there
        cases there
    have unlinked : ∀ i j, ¬ LinkedChips doublyBridgedDatabase m i j := by
      rintro i j ⟨conn, member, _, _, _, _, there, _⟩
      rw [noBottom conn member] at there
      cases there
    have nothing : checkFloatingChips doublyBridgedDatabase m insertionSorted = some [] := by
      rcases Option.map_eq_some_iff.mp (congrArg (fun p => p.2.2) shown) with ⟨_, done', none'⟩
      rw [done', List.length_eq_zero_iff.mp none']
    refine ⟨m, rfl, insertionSorted_sorts, nothing, fun reported => ?_⟩
    have exact' := reported.1
    rw [forall₂_nil_right_iff.mp reported.2] at exact'
    rcases exact'.ungrounded noGround with ⟨none', _⟩ | ⟨largest, _, _, left⟩
    · rw [none'] at chips
      cases chips
    · have only : ∀ i < m.unfolded_chips.length, setOf doublyBridgedDatabase m i = largest := by
        intro i inside
        by_contra other
        cases (left _).mpr ⟨⟨i, inside, rfl⟩, other⟩
      have one : OneSet doublyBridgedDatabase m 0 1 := by
        apply (setOf_eq_iff (by rw [chips]; decide)).mp
        rw [only 0 (by rw [chips]; decide), only 1 (by rw [chips]; decide)]
      rcases Relation.ReflTransGen.cases_head one with same | ⟨k, linked, _⟩
      · cases same
      · exact unlinked 0 k linked

end OpenRoad.Odb
