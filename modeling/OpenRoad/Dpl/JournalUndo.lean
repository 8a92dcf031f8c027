import OpenRoad.Dpl.Objectives

/-! What composing a move and undoing it do to the cells. -/

namespace OpenRoad.Dpl

open List Function Journal PlacementState Node

section

variable {mgr : DetailedMgr} {s s' : PlacementState} {n : Nat}

lemma except_bind_ok {α β : Type} {x : Except String α} {f : α → Except String β} {b : β}
    (done : x >>= f = .ok b) : ∃ a, x = .ok a ∧ f a = .ok b := by
  cases x with
  | error msg => cases done
  | ok a => exact ⟨a, rfl, done⟩

lemma foldlM_keeps {α σ β : Type} (view : σ → β) {step : σ → α → Except String σ}
    (keeps : ∀ s a s', step s a = .ok s' → view s' = view s) (items : List α) {s s' : σ}
    (done : items.foldlM step s = .ok s') : view s' = view s := by
  induction items generalizing s with
  | nil =>
    cases done
    rfl
  | cons a items ih =>
    rw [foldlM_cons] at done
    rcases except_bind_ok done with ⟨s₁, first, rest⟩
    exact (ih rest).trans (keeps s a s₁ first)

@[simp] lemma erasePixel_nodes (grid : Grid) (n : Nat) (s : PlacementState) :
    (erasePixel grid n s).nodes = s.nodes := rfl

lemma removeCellFromSegment_nodes {seg : Int} (done : removeCellFromSegment n seg s = .ok s') :
    s'.nodes = s.nodes := by
  rw [removeCellFromSegment] at done
  split at done
  · cases done
  · split at done
    · cases done
    · cases done
      rfl

lemma addCellToSegment_nodes {seg : Int} (done : addCellToSegment mgr n seg s = .ok s') :
    s'.nodes = s.nodes := by
  rw [addCellToSegment] at done
  split at done
  · cases done
  · split at done
    · cases done
    · cases done
      rfl

lemma removeFromSegments_nodes {segs : List Int} (done : removeFromSegments n segs s = .ok s') :
    s'.nodes = s.nodes := by
  refine foldlM_keeps PlacementState.nodes (fun s seg s' first => ?_) segs done
  split at first
  · cases first
    rfl
  · exact removeCellFromSegment_nodes first

lemma addToSegments_nodes {segs : List Int} (done : addToSegments mgr n segs s = .ok s') :
    s'.nodes = s.nodes := by
  refine foldlM_keeps PlacementState.nodes (fun s seg s' first => ?_) segs done
  split at first
  · cases first
    rfl
  · exact addCellToSegment_nodes first

lemma getSiteOrientation_ok {grid : Grid} {x y : Int} {site : Nat} {o : OrientType} :
    grid.getSiteOrientation x y site = .ok o ↔ grid.row_sites y x site = some o := by
  rw [Grid.getSiteOrientation]
  cases grid.row_sites y x site with
  | none => exact iff_of_false nofun nofun
  | some orient => simp

lemma paintAt_nodes {grid : Grid} {grid_y : Int} (done : paintAt grid n grid_y s = .ok s') :
    ∃ o, grid.row_sites grid_y (grid.gridX (s.nodes n).left) (s.nodes n).site = some o ∧
      s'.nodes = update s.nodes n ((s.nodes n).adjustCurrOrient o) := by
  rw [paintAt] at done
  rcases except_bind_ok done with ⟨o, oriented, rest⟩
  cases rest
  exact ⟨o, getSiteOrientation_ok.mp oriented, rfl⟩

def Node.at (node : Node) (x y : Int) : Node := { node with left := x, bottom := y }

section

variable (node : Node)

lemma Node.adjustCurrOrient_at (x y : Int) (o : OrientType) :
    (node.at x y).adjustCurrOrient o = (node.adjustCurrOrient o).at x y := by
  rw [adjustCurrOrient_eq, adjustCurrOrient_eq]
  rfl

lemma Node.at_at (x y x' y' : Int) : (node.at x y).at x' y' = node.at x' y' := rfl

lemma Node.at_self : node.at node.left node.bottom = node := rfl

lemma Node.adjustCurrOrient_left (o : OrientType) :
    (node.adjustCurrOrient o).left = node.left := by
  rw [adjustCurrOrient_eq]

lemma Node.adjustCurrOrient_bottom (o : OrientType) :
    (node.adjustCurrOrient o).bottom = node.bottom := by
  rw [adjustCurrOrient_eq]

lemma Node.adjustCurrOrient_site (o : OrientType) :
    (node.adjustCurrOrient o).site = node.site := by
  rw [adjustCurrOrient_eq]

end

/-- Moves of cells from where they are, each with a new orientation. -/
inductive Moves (grid : Grid) (base : Nat → Node) : List JournalAction → (Nat → Node) → Prop
  | none : Moves grid base [] base
  | move {actions nodes} (moved : Moves grid base actions nodes) (n : Nat) (x y : Int)
      (segs segs' : List Int) (o : OrientType)
      (oriented : grid.row_sites (grid.gridSnapDownY y) (grid.gridX x) (nodes n).site = some o) :
      Moves grid base (actions ++ [.moveCell n (nodes n).left (nodes n).bottom x y true segs segs'])
        (update nodes n (((nodes n).at x y).adjustCurrOrient o))

variable {base nodes : Nat → Node} {journal journal' : Journal}

lemma commitMove_moves {curSegs newSegs : List Int}
    {x y : Int} {remove add : Nat → List Int → PlacementState → Except String PlacementState}
    (removes : ∀ segs s s', remove n segs s = .ok s' → s'.nodes = s.nodes)
    (adds : ∀ segs s s', add n segs s = .ok s' → s'.nodes = s.nodes)
    (moved : Moves mgr.grid base journal.actions s.nodes)
    (done : commitMove mgr n (s.nodes n).left (s.nodes n).bottom curSegs x y newSegs s journal
      remove add = .ok (s', journal')) :
    Moves mgr.grid base journal'.actions s'.nodes ∧ journal' = journal.addAction (s'.nodes n)
        (.moveCell n (s.nodes n).left (s.nodes n).bottom x y true curSegs newSegs) := by
  rw [commitMove] at done
  rcases except_bind_ok done with ⟨s₁, removed, rest⟩
  rcases except_bind_ok rest with ⟨s₂, painted, rest⟩
  rcases except_bind_ok rest with ⟨s₃, added, rest⟩
  cases rest
  have nodes₁ : s₁.nodes = s.nodes := removes _ (erasePixel mgr.grid n s) _ removed
  rcases paintAt_nodes painted with ⟨o, oriented, nodes₂⟩
  have nodes₃ := adds _ _ _ added
  refine ⟨?_, rfl⟩
  have moves := Moves.move moved n x y curSegs newSegs o (by
    simpa [moveTo, nodes₁] using oriented)
  rw [nodes₃, nodes₂]
  simp only [moveTo, setNode_nodes, update_self,
    update_idem, nodes₁]
  exact moves

lemma Request.compose_moves {request : Request}
    (moved : Moves mgr.grid base journal.actions s.nodes)
    (done : request.compose mgr (s, journal) = some (s', journal')) :
    Moves mgr.grid base journal'.actions s'.nodes ∧ ∃ action, action.getNode = request.getNode ∧
        journal' = journal.addAction (s'.nodes request.getNode) action := by
  have joined : ∀ x : Except String (Option (PlacementState × Journal)),
      x.toOption.join = some (s', journal') → x = .ok (some (s', journal')) := by
    intro x isSome
    cases x with
    | error msg => cases isSome
    | ok moved =>
      rw [Except.toOption, Option.join_some] at isSome
      rw [isSome]
  have commits : ∀ x : Except String (PlacementState × Journal),
      (do let moved ← x; .ok (some moved)) = (.ok (some (s', journal')) : Except String _) →
      x = .ok (s', journal') := by
    intro x isOk
    rcases except_bind_ok isOk with ⟨pair, first, rest⟩
    cases rest
    exact first
  cases request with
  | single n curSeg x y newSeg =>
    have added := joined _ done
    rw [addToMoveList] at added
    split at added
    · cases added
    · split at added
      · cases added
      · split at added
        · cases added
        · rcases commitMove_moves (fun _ _ _ => removeFromSegments_nodes)
            (fun _ _ _ => addToSegments_nodes) moved (commits _ added) with ⟨moves, sameJournal⟩
          exact ⟨moves, _, rfl, sameJournal⟩
  | several n curSegs x y newSegs =>
    have added := joined _ done
    rw [addToMoveListSegs] at added
    split at added
    · cases added
    · split at added
      · cases added
      · rcases commitMove_moves (fun segs _ _ => foldlM_keeps PlacementState.nodes
            (fun _ _ _ => removeCellFromSegment_nodes) segs)
          (fun segs _ _ => foldlM_keeps PlacementState.nodes
            (fun _ _ _ => addCellToSegment_nodes) segs) moved (commits _ added) with
          ⟨moves, sameJournal⟩
        exact ⟨moves, _, rfl, sameJournal⟩

/-- What the journal of a composed move knows. -/
structure Composed (grid : Grid) (base : Nat → Node) (nodes : Nat → Node) (journal : Journal) :
    Prop where
  moves : Moves grid base journal.actions nodes
  affected : ∀ n, n ∈ journal.affected_nodes ↔ ∃ action ∈ journal.actions, action.getNode = n
  edges : ∀ n ∈ journal.affected_nodes, ∀ pin ∈ (base n).pins, pin.edge ∈ journal.affected_edges
  nodup : journal.affected_nodes.Nodup
  nodup_edges : journal.affected_edges.Nodup

def Grid.Gives (grid : Grid) (o : OrientType) : Prop :=
  ∃ grid_y grid_x site, grid.row_sites grid_y grid_x site = some o

variable {grid : Grid} {actions : List JournalAction}

lemma Moves.node (moves : Moves grid base actions nodes) (n : Nat) :
    nodes n = base n ∨ ∃ x y o, grid.Gives o ∧ nodes n = ((base n).adjustCurrOrient o).at x y := by
  induction moves with
  | none => exact .inl rfl
  | @move actions nodes moved m x y segs segs' o oriented ih =>
    by_cases same : n = m
    · subst same
      right
      rw [update_self, adjustCurrOrient_at]
      have gives : grid.Gives o := ⟨_, _, _, oriented⟩
      rcases ih with unmoved | ⟨x', y', o', _, there⟩
      · exact ⟨x, y, o, gives, by rw [unmoved]⟩
      · refine ⟨x, y, o, gives, ?_⟩
        rw [there, adjustCurrOrient_at, adjustCurrOrient_adjustCurrOrient]
        rfl
    · rw [update_of_ne same]
      exact ih

lemma Moves.unmoved (moves : Moves grid base actions nodes) {n : Nat}
    (other : ∀ action ∈ actions, action.getNode ≠ n) : nodes n = base n := by
  induction moves with
  | none => rfl
  | @move actions nodes moved m x y segs segs' o oriented ih =>
    have isOther : n ≠ m := fun same =>
      other _ (mem_append_right actions (mem_singleton_self _)) same.symm
    rw [update_of_ne isOther]
    exact ih fun action member => other action (mem_append_left _ member)

lemma pins_at (node : Node) (x y : Int) : (node.at x y).pins = node.pins := rfl

lemma Node.adjustCurrOrient_edges (node : Node) (o : OrientType) :
    (node.adjustCurrOrient o).pins.map Pin.edge = node.pins.map Pin.edge := by
  rw [adjustCurrOrient_eq, map_map]
  rfl

lemma Moves.edges (moves : Moves grid base actions nodes) (n : Nat) :
    (nodes n).pins.map Pin.edge = (base n).pins.map Pin.edge := by
  rcases moves.node n with unmoved | ⟨x, y, o, _, there⟩
  · rw [unmoved]
  · rw [there, pins_at, adjustCurrOrient_edges]

lemma mem_insertEdges (pins : List Pin) (edges : List Nat) (e : Nat) :
    e ∈ pins.foldl (fun edges pin => edges.insert pin.edge) edges ↔
      e ∈ edges ∨ e ∈ pins.map Pin.edge := by
  induction pins generalizing edges with
  | nil => simp
  | cons pin pins ih => simp [ih, or_assoc, or_left_comm]

lemma nodup_insertEdges (pins : List Pin) (edges : List Nat) (nodup : edges.Nodup) :
    (pins.foldl (fun edges pin => edges.insert pin.edge) edges).Nodup := by
  induction pins generalizing edges with
  | nil => exact nodup
  | cons pin pins ih => exact ih _ (nodup.insert)

lemma Composed.add {nodes' : Nat → Node} {action : JournalAction}
    (composed : Composed grid base nodes journal)
    (moves : Moves grid base (journal.addAction (nodes' action.getNode) action).actions nodes') :
    Composed grid base nodes' (journal.addAction (nodes' action.getNode) action) where
  moves := moves
  affected := fun n => by
    simp [addAction, composed.affected, or_comm, eq_comm]
  edges := fun n member pin isPin => by
    rw [addAction, mem_insertEdges]
    rcases mem_insert_iff.mp member with same | earlier
    · right
      rw [moves.edges, ← same]
      exact mem_map_of_mem isPin
    · exact .inl (composed.edges n earlier pin isPin)
  nodup := composed.nodup.insert
  nodup_edges := nodup_insertEdges _ _ composed.nodup_edges

lemma composeMoves_composed {requests : List Request}
    (done : composeMoves mgr requests s = some (s', journal)) :
    Composed mgr.grid s.nodes s'.nodes journal ∧
      ∀ n, n ∈ journal.affected_nodes ↔ ∃ request ∈ requests, request.getNode = n := by
  have general : ∀ (requests : List Request) (s₁ : PlacementState) (j₁ : Journal),
      Composed mgr.grid s.nodes s₁.nodes j₁ →
      requests.foldlM (fun state request => request.compose mgr state) (s₁, j₁) =
        some (s', journal) →
      Composed mgr.grid s.nodes s'.nodes journal ∧ ∀ n, n ∈ journal.affected_nodes ↔
        n ∈ j₁.affected_nodes ∨ ∃ request ∈ requests, request.getNode = n := by
    intro requests
    induction requests with
    | nil =>
      intro s₁ j₁ composed done
      cases done
      exact ⟨composed, fun n => by simp⟩
    | cons request requests ih =>
      intro s₁ j₁ composed done
      rw [foldlM_cons] at done
      rcases Option.bind_eq_some_iff.mp done with ⟨⟨s₂, j₂⟩, first, rest⟩
      rcases Request.compose_moves composed.moves first with ⟨moves, action, isNode, sameJournal⟩
      rw [← isNode] at sameJournal
      rw [sameJournal] at moves rest
      rcases ih s₂ _ (composed.add moves) rest with ⟨composed', affected⟩
      refine ⟨composed', fun n => (affected n).trans ?_⟩
      simp [addAction, isNode, or_assoc, eq_comm, or_left_comm]
  rcases general requests s empty ⟨Moves.none, fun n => by simp [empty], nofun,
    nodup_nil, nodup_nil⟩ done with ⟨composed, affected⟩
  exact ⟨composed, fun n => by simpa [empty] using affected n⟩

/-- Cells of which an action was undone have the orientation of their site, the others are as they
are. -/
def Restored (grid : Grid) (undone : Nat → Prop) (nodes t : Nat → Node) : Prop :=
  ∀ n, (¬ undone n → t n = nodes n) ∧
    (undone n → ∃ o, grid.row_sites (grid.gridRoundY (nodes n).bottom)
      (grid.gridX (nodes n).left) (nodes n).site = some o ∧ t n = (nodes n).adjustCurrOrient o)

variable {t : PlacementState}

lemma undoAction_nodes {x y x' y' : Int} {segs segs' : List Int} {u : PlacementState}
    (done : undoAction mgr false t (.moveCell n x y x' y' true segs segs') = .ok u) :
    ∃ o, mgr.grid.row_sites (mgr.grid.gridRoundY y) (mgr.grid.gridX x) (t.nodes n).site = some o ∧
      u.nodes = update t.nodes n (((t.nodes n).at x y).adjustCurrOrient o) := by
  rw [undoAction] at done
  rcases except_bind_ok done with ⟨s₁, removed, rest⟩
  rcases except_bind_ok rest with ⟨s₂, painted, added⟩
  have nodes₁ : s₁.nodes = (erasePixel mgr.grid n t).nodes := removeFromSegments_nodes removed
  rw [erasePixel_nodes] at nodes₁
  rcases paintAt_nodes painted with ⟨o, oriented, nodes₂⟩
  refine ⟨o, ?_, ?_⟩
  · simpa [moveTo, nodes₁] using oriented
  · rw [addToSegments_nodes added, nodes₂]
    simp [moveTo, nodes₁]
    rfl

lemma undo_restored (moves : Moves mgr.grid base actions nodes) {undone : Nat → Prop}
    {u : PlacementState} (restored : Restored mgr.grid undone nodes t.nodes)
    (done : actions.reverse.foldlM (undoAction mgr false) t = .ok u) :
    Restored mgr.grid (fun n => undone n ∨ ∃ action ∈ actions, action.getNode = n) base u.nodes := by
  induction moves generalizing undone t with
  | none =>
    cases done
    intro n
    simpa using restored n
  | @move actions nodes moved m x y segs segs' o oriented ih =>
    rw [reverse_append, reverse_singleton, singleton_append,
      foldlM_cons] at done
    rcases except_bind_ok done with ⟨t₁, first, rest⟩
    rcases undoAction_nodes first with ⟨o', oriented', nodes₁⟩
    -- up to its orientation the cell is where the action found it
    have back : ∃ o, t.nodes m = ((nodes m).adjustCurrOrient o).at x y := by
      have there := restored m
      rw [update_self, adjustCurrOrient_at] at there
      by_cases isUndone : undone m
      · rcases there.2 isUndone with ⟨o₂, _, same⟩
        rw [adjustCurrOrient_at, adjustCurrOrient_adjustCurrOrient] at same
        exact ⟨o₂, same⟩
      · exact ⟨o, there.1 isUndone⟩
    rcases back with ⟨o₂, back⟩
    have site : (t.nodes m).site = (nodes m).site := by
      rw [back]
      exact adjustCurrOrient_site _ _
    have restored₁ : Restored mgr.grid (fun n => undone n ∨ n = m) nodes t₁.nodes := by
      intro n
      by_cases same : n = m
      · subst same
        refine ⟨fun notUndone => absurd (.inr rfl) notUndone, fun _ => ⟨o', ?_, ?_⟩⟩
        · rw [← site]
          exact oriented'
        · rw [nodes₁, update_self, back, at_at, adjustCurrOrient_at,
            adjustCurrOrient_adjustCurrOrient, ← adjustCurrOrient_at, at_self]
      · have there := restored n
        rw [update_of_ne same] at there
        rw [nodes₁, update_of_ne same]
        exact ⟨fun notUndone => there.1 fun isUndone => notUndone (.inl isUndone),
          fun isUndone => there.2 (isUndone.resolve_right same)⟩
    have all := ih restored₁ rest
    intro n
    have equiv : (undone n ∨ n = m) ∨ (∃ action ∈ actions, action.getNode = n) ↔
        undone n ∨ ∃ action ∈ actions ++ [JournalAction.moveCell m (nodes m).left
          (nodes m).bottom x y true segs segs'], action.getNode = n := by
      simp only [mem_append, mem_singleton, or_and_right, exists_or, exists_eq_left,
        JournalAction.getNode, or_assoc]
      rw [or_comm (a := n = m), eq_comm]
    exact (and_congr (imp_congr_left (not_congr equiv)) (imp_congr_left equiv)).mp (all n)

def SiteOriented (grid : Grid) (nodes : Nat → Node) (n : Nat) : Prop :=
  grid.row_sites (grid.gridRoundY (nodes n).bottom) (grid.gridX (nodes n).left) (nodes n).site =
    some (nodes n).orient

lemma rejectMove_restored (composed : Composed mgr.grid base s.nodes journal)
    (done : rejectMove mgr journal s = .ok (s', journal')) :
    Restored mgr.grid (· ∈ journal.affected_nodes) base s'.nodes := by
  rw [rejectMove] at done
  rcases except_bind_ok done with ⟨u, undone, rest⟩
  cases rest
  have untouched : Restored mgr.grid (fun _ => False) s.nodes s.nodes :=
    fun n => ⟨fun _ => rfl, nofun⟩
  have restored := undo_restored composed.moves untouched undone
  intro n
  have all := restored n
  simp only [false_or, ← composed.affected n] at all
  exact all

lemma rejectMove_nodes (composed : Composed mgr.grid base s.nodes journal)
    (oriented : ∀ n ∈ journal.affected_nodes, SiteOriented mgr.grid base n)
    (done : rejectMove mgr journal s = .ok (s', journal')) : s'.nodes = base := by
  funext n
  have restored := rejectMove_restored composed done n
  by_cases affected : n ∈ journal.affected_nodes
  · rcases restored.2 affected with ⟨o, atSite, same⟩
    have isSite := oriented n affected
    rw [SiteOriented, atSite] at isSite
    rw [same, Option.some.inj isSite, adjustCurrOrient_self]
  · exact restored.1 affected

lemma undo_positions (moves : Moves mgr.grid base actions nodes) (final : Nat → Node)
    (places : ∀ n, t.nodes n = (final n).at (nodes n).left (nodes n).bottom) :
    ∃ u, actions.reverse.foldlM (undoAction mgr true) t = .ok u ∧
      ∀ n, u.nodes n = (final n).at (base n).left (base n).bottom := by
  induction moves generalizing t with
  | none => exact ⟨t, rfl, places⟩
  | @move actions nodes moved m x y segs segs' o oriented ih =>
    rw [reverse_append, reverse_singleton, singleton_append, foldlM_cons]
    refine ih fun n => ?_
    rw [moveTo, setNode_nodes]
    by_cases same : n = m
    · subst same
      rw [update_self, places n]
      rfl
    · rw [update_of_ne same, places n, update_of_ne same]

lemma redo_positions (moves : Moves mgr.grid base actions nodes) (final : Nat → Node)
    (places : ∀ n, t.nodes n = (final n).at (base n).left (base n).bottom) :
    ∃ u, actions.foldlM (redoAction mgr true) t = .ok u ∧
      ∀ n, u.nodes n = (final n).at (nodes n).left (nodes n).bottom := by
  induction moves with
  | none => exact ⟨t, rfl, places⟩
  | @move actions nodes moved m x y segs segs' o oriented ih =>
    rcases ih with ⟨u, done, places'⟩
    refine ⟨u.moveTo m x y, ?_, fun n => ?_⟩
    · rw [foldlM_append, done]
      rfl
    · rw [moveTo, setNode_nodes]
      by_cases same : n = m
      · subst same
        rw [update_self, update_self, places' n, adjustCurrOrient_at]
        rfl
      · rw [update_of_ne same, places' n, update_of_ne same]

end

end OpenRoad.Dpl
