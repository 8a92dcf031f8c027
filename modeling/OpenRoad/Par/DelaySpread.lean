import OpenRoad.Lib.Flood
import OpenRoad.Par.Hypergraph

/-! The delay of cut arcs spread over the timing graph. -/

namespace OpenRoad.Par

open OpenRoad.Lib Function List Relation

inductive VertexType
  | kCombStdCell
  | kSeqStdCell
  | kMacro
  | kPort
deriving DecidableEq

structure TimingGraph (vd hd : Nat) extends Hypergraph vd hd where
  vertexTypes : List VertexType

namespace TimingGraph

variable {vd hd : Nat} {α : Type} (t : TimingGraph vd hd)

def getVertexType (v : Nat) : VertexType := t.vertexTypes.getD v .kPort

section

variable [LinearOrder α]

/-- The slack of the arc goes on through all its vertices, the driver among them. -/
def lambdaForward : Nat → Nat → (Nat → α) → Option (Nat → α)
  | 0, _, _ => none
  | fuel + 1, e, slacks =>
    (t.vertices e).foldlM (fun slacks v =>
      if t.getVertexType v ≠ .kCombStdCell then some slacks
      else (t.edges v).foldlM (fun slacks next_e =>
        if slacks next_e > slacks e then
          lambdaForward fuel next_e (update slacks next_e (slacks e))
        else some slacks) slacks) slacks

/-- The arcs of the driver of an arc one after the other, where a single vertex ends the loop. -/
def backwardLoop (visit : Nat → (Nat → α) → Option (Nat → α)) (e src_id : Nat) :
    List Nat → (Nat → α) → Option (Nat → α)
  | [], slacks => some slacks
  | pre_e :: rest, slacks =>
    match t.vertices pre_e with
    | pre_src_id :: _ :: _ =>
      if pre_src_id = src_id then backwardLoop visit e src_id rest slacks
      else if slacks pre_e > slacks e then do
        let slacks ← visit pre_e (update slacks pre_e (slacks e))
        backwardLoop visit e src_id rest slacks
      else backwardLoop visit e src_id rest slacks
    | _ => some slacks

def lambdaBackward : Nat → Nat → (Nat → α) → Option (Nat → α)
  | 0, _, _ => none
  | fuel + 1, e, slacks =>
    match t.vertices e with
    | src_id :: _ :: _ =>
      if t.getVertexType src_id ≠ .kCombStdCell then some slacks
      else t.backwardLoop (lambdaBackward fuel) e src_id (t.edges src_id) slacks
    | _ => some slacks

variable [Sub α]

/-- An arc that is cut, and the arcs its delay spreads to. -/
def delayArc (extra_cut_delay : α) (fuel arc_id : Nat) (slacks : Nat → α) : Option (Nat → α) := do
  let slacks := update slacks arc_id (slacks arc_id - extra_cut_delay)
  let slacks ← t.lambdaForward fuel arc_id slacks
  t.lambdaBackward fuel arc_id slacks

def delayArcs (extra_cut_delay : α) (fuel : Nat) (arcs : List Nat) (slacks : Nat → α) :
    Option (Nat → α) :=
  arcs.foldlM (fun slacks arc_id => t.delayArc extra_cut_delay fuel arc_id slacks) slacks

end

def forwardNext (e : Nat) : List Nat :=
  ((t.vertices e).filter fun v => t.getVertexType v = .kCombStdCell).flatMap t.edges

/-- The arcs into the driver of an arc, up to the first one without a sink. -/
def backwardNext (e : Nat) : List Nat :=
  match t.vertices e with
  | src_id :: _ :: _ =>
    if t.getVertexType src_id ≠ .kCombStdCell then []
    else ((t.edges src_id).takeWhile fun pre_e => 1 < (t.vertices pre_e).length).filter
      fun pre_e => (t.vertices pre_e).head? ≠ some src_id
  | _ => []

lemma foldlM_combinational (visit : (Nat → α) → Nat → Option (Nat → α)) (vertices : List Nat) :
    ∀ slacks : Nat → α, vertices.foldlM (fun slacks v =>
        if t.getVertexType v ≠ .kCombStdCell then some slacks
        else (t.edges v).foldlM visit slacks) slacks =
      ((vertices.filter fun v => t.getVertexType v = .kCombStdCell).flatMap t.edges).foldlM visit
        slacks := by
  induction vertices with
  | nil => exact fun _ => rfl
  | cons v rest ih =>
    intro slacks
    rw [foldlM_cons]
    by_cases isComb : t.getVertexType v = .kCombStdCell
    · rw [if_neg (not_not.mpr isComb), filter_cons_of_pos (by simp [isComb]),
        flatMap_cons, foldlM_append]
      congr
      funext slacks
      exact ih slacks
    · rw [if_pos isComb, filter_cons_of_neg (by simp [isComb])]
      exact ih slacks

lemma lambdaForward_eq [LinearOrder α] (fuel : Nat) :
    (t.lambdaForward fuel : Nat → (Nat → α) → Option (Nat → α)) = flood t.forwardNext fuel := by
  induction fuel with
  | zero => rfl
  | succ fuel ih =>
    funext e slacks
    rw [lambdaForward, flood, forwardNext, ih]
    exact t.foldlM_combinational _ _ slacks

lemma backwardLoop_eq [LinearOrder α] (visit : Nat → (Nat → α) → Option (Nat → α)) (e src_id : Nat)
    (arcs : List Nat) : ∀ slacks : Nat → α, t.backwardLoop visit e src_id arcs slacks =
      ((arcs.takeWhile fun pre_e => 1 < (t.vertices pre_e).length).filter
        fun pre_e => (t.vertices pre_e).head? ≠ some src_id).foldlM (fun slacks pre_e =>
          if slacks e < slacks pre_e then visit pre_e (update slacks pre_e (slacks e))
          else some slacks) slacks := by
  induction arcs with
  | nil => exact fun _ => rfl
  | cons pre_e rest ih =>
    intro slacks
    rw [backwardLoop]
    cases isVertices : t.vertices pre_e with
    | nil =>
      rw [takeWhile_cons_of_neg (by simp [isVertices])]
      rfl
    | cons pre_src_id sinks =>
      cases sinks with
      | nil =>
        rw [takeWhile_cons_of_neg (by simp [isVertices])]
        rfl
      | cons sink sinks =>
        rw [takeWhile_cons_of_pos (by simp [isVertices])]
        dsimp only
        by_cases same : pre_src_id = src_id
        · rw [if_pos same, filter_cons_of_neg (by simp [isVertices, same])]
          exact ih slacks
        · rw [if_neg same, filter_cons_of_pos (by simp [isVertices, same]), foldlM_cons]
          by_cases higher : slacks pre_e > slacks e
          · rw [if_pos higher, if_pos higher]
            congr
            funext slacks
            exact ih slacks
          · rw [if_neg higher, if_neg higher]
            exact ih slacks

lemma lambdaBackward_eq [LinearOrder α] (fuel : Nat) :
    (t.lambdaBackward fuel : Nat → (Nat → α) → Option (Nat → α)) = flood t.backwardNext fuel := by
  induction fuel with
  | zero => rfl
  | succ fuel ih =>
    funext e slacks
    rw [lambdaBackward, flood, backwardNext, ih]
    cases t.vertices e with
    | nil => rfl
    | cons src_id sinks =>
      cases sinks with
      | nil => rfl
      | cons sink sinks =>
        dsimp only
        by_cases isComb : t.getVertexType src_id = .kCombStdCell
        · rw [if_neg (not_not.mpr isComb), if_neg (not_not.mpr isComb)]
          exact t.backwardLoop_eq _ e src_id _ slacks
        · rw [if_pos isComb, if_pos isComb]
          rfl

def Feeds (e e' : Nat) : Prop :=
  ∃ v, t.getVertexType v = .kCombStdCell ∧ v ∈ (t.vertices e).tail ∧ (t.vertices e').head? = some v

def Path : Nat → Nat → Prop := Relation.ReflTransGen t.Feeds

def Linked (arcs : List Nat) (e : Nat) : Prop := ∃ arc ∈ arcs, t.Path e arc ∨ t.Path arc e

/-- A combinational cell is on both arcs, as driver or as sink. -/
def SharesCell (e e' : Nat) : Prop :=
  e' < t.getNumHyperedges ∧
    ∃ v, t.getVertexType v = .kCombStdCell ∧ v ∈ t.vertices e ∧ v ∈ t.vertices e'

lemma sharesCell_iff (e e' : Nat) : t.SharesCell e e' ↔ e' ∈ t.forwardNext e := by
  simp only [SharesCell, forwardNext, mem_flatMap, mem_filter, decide_eq_true_eq,
    Hypergraph.mem_edges]
  constructor
  · rintro ⟨inside, v, isComb, here, there⟩
    exact ⟨v, ⟨here, isComb⟩, inside, there⟩
  · rintro ⟨v, ⟨here, isComb⟩, inside, there⟩
    exact ⟨inside, v, isComb, here, there⟩

lemma sharesCell_of_backward {e pre_e : Nat} (isNext : pre_e ∈ t.backwardNext e) :
    t.SharesCell e pre_e := by
  rw [backwardNext] at isNext
  split at isNext
  · rename_i src_id sink sinks isVertices
    split at isNext
    · cases isNext
    · rename_i isComb
      rw [mem_filter] at isNext
      have isArc := Hypergraph.mem_edges.mp (takeWhile_subset _ isNext.1)
      exact ⟨isArc.1, src_id, not_not.mp isComb, by rw [isVertices]; exact mem_cons_self, isArc.2⟩
  · cases isNext

section

variable [LinearOrder α] [Sub α] {extra_cut_delay : α}

/-- The delay of the cut arcs, one after the other, is carried over shared cells to linked arcs only:
each time to an arc whose slack at the start is larger than the delayed one. -/
def CarriedLinked (extra_cut_delay : α) (arcs : List Nat) (timing_arc_slacks : Nat → α) : Prop :=
  ∀ e s, Lowers t.SharesCell (fun slack => slack - extra_cut_delay) timing_arc_slacks arcs.reverse
    s e → t.Linked arcs e

lemma delayArc_lowered (lowers : ∀ s : α, s - extra_cut_delay ≤ s)
    (mono : Monotone fun s : α => s - extra_cut_delay) {slacks now : Nat → α} {arcs : List Nat}
    (lowered : Lowered t.SharesCell (fun s => s - extra_cut_delay) slacks arcs now)
    (arc_id : Nat) : ∃ now', (∀ fuel, t.getNumHyperedges < fuel →
        t.delayArc extra_cut_delay fuel arc_id now = some now') ∧
      Lowered t.SharesCell (fun s => s - extra_cut_delay) slacks (arc_id :: arcs) now' := by
  let low := update now arc_id (now arc_id - extra_cut_delay)
  have isLow : low arc_id = now arc_id - extra_cut_delay := update_self ..
  have inside : ∀ e, ∀ e' ∈ t.forwardNext e, e' ∈ Finset.range t.getNumHyperedges :=
    fun e e' isNext => Finset.mem_range.mpr ((t.sharesCell_iff e e').mpr isNext).1
  rcases flood_reaches inside arc_id low with ⟨ahead, isAhead, aheadOf, aheadApart⟩
  rw [isLow] at aheadOf aheadApart
  have next := lowered.flood t.sharesCell_iff lowers mono aheadOf aheadApart
  rcases flood_reaches (fun _ _ isNext => Finset.mem_range.mpr (t.sharesCell_of_backward isNext).1)
    arc_id ahead with ⟨back, isBack, backOf, backApart⟩
  -- what lies before the arc shares its driver, so the forward turn has been there
  have same : back = ahead := by
    funext e
    by_cases reaches : Reaches t.backwardNext ahead (ahead arc_id) arc_id e
    · rcases ReflTransGen.cases_head reaches with isFirst | ⟨e', step, _⟩
      · rw [← isFirst]
        exact backOf arc_id .refl
      · have notHigher := next.closed arc_id _ e' Lowers.source (t.sharesCell_of_backward step.1)
        exact absurd step.2 (not_lt.mpr notHigher)
    · exact backApart e reaches
  refine ⟨ahead, fun fuel enough => ?_, next⟩
  have isForward := isAhead fuel (by rw [Finset.card_range]; exact enough)
  have isBackward := isBack fuel (by rw [Finset.card_range]; exact enough)
  rw [← t.lambdaForward_eq] at isForward
  rw [← t.lambdaBackward_eq, same] at isBackward
  rw [delayArc, isForward]
  exact isBackward

lemma delayArcs_lowered (lowers : ∀ s : α, s - extra_cut_delay ≤ s)
    (mono : Monotone fun s : α => s - extra_cut_delay) (slacks : Nat → α) (arcs : List Nat) :
    ∃ slacks', (∀ fuel, t.getNumHyperedges < fuel →
        t.delayArcs extra_cut_delay fuel arcs slacks = some slacks') ∧
      Lowered t.SharesCell (fun s => s - extra_cut_delay) slacks arcs.reverse slacks' := by
  induction arcs using reverseRecOn with
  | nil => exact ⟨slacks, fun _ _ => rfl, lowered_start _ _ slacks⟩
  | append_singleton arcs arc_id ih =>
    rcases ih with ⟨now, isNow, lowered⟩
    rcases t.delayArc_lowered lowers mono lowered arc_id with ⟨slacks', isLast, last⟩
    refine ⟨slacks', fun fuel enough => ?_, by rw [reverse_append]; exact last⟩
    have isBefore := isNow fuel enough
    rw [delayArcs] at isBefore
    rw [delayArcs, foldlM_append, isBefore, Option.bind_eq_bind, Option.bind_some, foldlM_cons,
      isLast fuel enough]
    rfl

end

end TimingGraph

section

variable {vd hd : Nat} {α : Type} [LinearOrder α] [Sub α]

/-- The arcs of the hyperedges that a solution cuts. -/
def Hypergraph.cutArcs (h : Hypergraph vd hd) (solution : Partitions) : Option (List Nat) :=
  if h.timingFlag then
    (GoldenEvaluator.getCutHyperedges h solution).map fun cut_hyperedges =>
      cut_hyperedges.flatMap fun e => h.hyperedgeArcSet.getD e []
  else some []

/-- The slacks of the arcs once the delay of the cut ones has spread. -/
def updateTimingSlacks (h : Hypergraph vd hd) {tvd thd : Nat} (timing_graph : TimingGraph tvd thd)
    (extra_cut_delay : α) (solution : Partitions) (fuel : Nat) (timing_arc_slacks : Nat → α) :
    Option (Nat → α) := do
  let arcs ← h.cutArcs solution
  timing_graph.delayArcs extra_cut_delay fuel arcs timing_arc_slacks

/-- Slacks change on directed paths only, if no delay is carried elsewhere over shared cells. -/
theorem delay_stays_on_paths_iff {h : Hypergraph vd hd} {tvd thd : Nat}
    (timing_graph : TimingGraph tvd thd) {extra_cut_delay : α} {solution : Partitions}
    {arcs : List Nat} (delayed : ∀ s : α, s - extra_cut_delay ≤ s)
    (ordered : Monotone fun s : α => s - extra_cut_delay)
    (isCut : h.cutArcs solution = some arcs) (timing_arc_slacks : Nat → α) :
    ∃ slacks, (∀ fuel, timing_graph.getNumHyperedges < fuel →
        updateTimingSlacks h timing_graph extra_cut_delay solution fuel timing_arc_slacks =
          some slacks) ∧
      (∀ e, slacks e ≤ timing_arc_slacks e) ∧
      ((∀ e, slacks e ≠ timing_arc_slacks e → timing_graph.Linked arcs e) ↔
        timing_graph.CarriedLinked extra_cut_delay arcs timing_arc_slacks) := by
  rcases timing_graph.delayArcs_lowered delayed ordered timing_arc_slacks arcs with
    ⟨slacks, isLast, lowered⟩
  refine ⟨slacks, fun fuel enough => ?_, lowered.below, ?_⟩
  · rw [updateTimingSlacks, isCut]
    exact isLast fuel enough
  · exact lowered.changed_iff fun arc_id member => ⟨arc_id, mem_reverse.mp member, .inl .refl⟩

end

def gateHypergraph : Hypergraph 1 1 :=
  Hypergraph.new [[0, 2], [1, 2]] (List.replicate 3 1) (List.replicate 2 1) [] [] [5, 10]
    [[0], [1]] []

def gateTiming : TimingGraph 1 1 where
  toHypergraph := gateHypergraph
  vertexTypes := [.kPort, .kPort, .kCombStdCell]

lemma gateTiming_no_feeds (e e' : Nat) : ¬ gateTiming.Feeds e e' := by
  rintro ⟨v, _, isSink, isDriver⟩
  have sink : v = 2 := by
    rcases e with _ | _ | e
    · exact mem_singleton.mp isSink
    · exact mem_singleton.mp isSink
    · cases isSink
  rw [sink] at isDriver
  rcases e' with _ | _ | e'
  · cases isDriver
  · cases isDriver
  · cases isDriver

/-- The delay of one arc comes to the other one, to which no path leads. -/
theorem delay_leaves_paths : gateHypergraph.cutArcs [0, 1, 1] = some [0] ∧
      ((updateTimingSlacks gateHypergraph gateTiming (1 : Int) [0, 1, 1] 3
        fun e => if e = 0 then 5 else 10).map fun slacks => slacks 1) = some 4 ∧
      ¬ gateTiming.Linked [0] 1 := by
  refine ⟨by decide, by decide, ?_⟩
  rintro ⟨arc_id, isCut, path⟩
  rw [List.mem_singleton.mp isCut] at path
  rcases path with path | path
  · rcases Relation.ReflTransGen.cases_head path with same | ⟨e, feeds, _⟩
    · cases same
    · exact gateTiming_no_feeds _ e feeds
  · rcases Relation.ReflTransGen.cases_head path with same | ⟨e, feeds, _⟩
    · cases same
    · exact gateTiming_no_feeds _ e feeds

/-- A port drives the cell, and the cell a port. -/
def chainHypergraph : Hypergraph 1 1 :=
  Hypergraph.new [[0, 2], [2, 1]] (List.replicate 3 1) (List.replicate 2 1) [] [] [5, 10]
    [[0], [1]] []

def chainTiming : TimingGraph 1 1 := ⟨chainHypergraph, gateTiming.vertexTypes⟩

theorem delay_stays_on_paths_chain : ∃ slacks, (∀ fuel, 2 < fuel →
        updateTimingSlacks chainHypergraph chainTiming (1 : Int) [0, 1, 1] fuel
          (fun e => if e = 0 then 5 else 10) = some slacks) ∧
      ∀ e, slacks e ≠ (if e = 0 then 5 else 10) → chainTiming.Linked [0] e := by
  have isCut : chainHypergraph.cutArcs [0, 1, 1] = some [0] := by decide
  have ordered : Monotone fun s : Int => s - 1 := fun _ _ le => Int.sub_le_sub_right le 1
  rcases delay_stays_on_paths_iff chainTiming (fun s : Int => Int.sub_le_self s (by decide)) ordered
    isCut (fun e => if e = 0 then 5 else 10) with ⟨slacks, isLast, _, linked⟩
  refine ⟨slacks, isLast, linked.mpr fun e s lowers => ⟨0, mem_singleton.mpr rfl, .inr ?_⟩⟩
  have inside : e = 0 ∨ e < 2 := by
    rcases lowers.source_or_lower with isSource | ⟨_, _, shares⟩
    · exact .inl (mem_singleton.mp isSource)
    · exact .inr shares.1
  by_cases isCut : e = 0
  · rw [isCut]
    exact .refl
  · have isLast : e = 1 := by omega
    rw [isLast]
    exact .single ⟨2, by decide, by decide, by decide⟩

end OpenRoad.Par
