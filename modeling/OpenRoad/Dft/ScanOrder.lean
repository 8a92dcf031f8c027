import OpenRoad.Dft.ScanArchitect

/-! The cells of a bucket and of a chain are only put in another order. -/

namespace OpenRoad.Dft

open List ScanCell

lemma except_bind_ok {α β : Type} {x : Except String α} {f : α → Except String β} {a : α}
    (first : x = .ok a) : x >>= f = f a := by
  rw [first]
  rfl

def ScanCell.key (cell : ScanCell) : Nat ×ₗ (String ×ₗ Nat) :=
  toLex (cell.bits, toLex (cell.clock_domain.clock_name, cell.clock_domain.clock_edge.value))

lemma compareScanCells_iff (lhs rhs : ScanCell) :
    compareScanCells lhs rhs = true ↔ lhs.key < rhs.key := by
  rw [key, key, Prod.Lex.toLex_lt_toLex, Prod.Lex.toLex_lt_toLex,
    compareScanCells]
  by_cases sameBits : lhs.bits = rhs.bits
  · by_cases sameName : lhs.clock_domain.clock_name = rhs.clock_domain.clock_name
    · simp [sameBits, sameName]
    · simp [sameBits, sameName]
  · simp [sameBits]

lemma notAfter_iff (lhs rhs : ScanCell) : NotAfter lhs rhs ↔ lhs.key ≤ rhs.key := by
  rw [NotAfter, compareScanCells_iff, not_lt]

instance : Std.Total NotAfter := ⟨fun a b => by
  rw [notAfter_iff, notAfter_iff]
  exact le_total _ _⟩

instance : IsTrans ScanCell NotAfter := ⟨fun a b c => by
  rw [notAfter_iff, notAfter_iff, notAfter_iff]
  exact le_trans⟩

lemma sortScanCells_perm (cells : List ScanCell) : (sortScanCells cells).Perm cells :=
  perm_insertionSort _ _

lemma sortScanCells_sorted (cells : List ScanCell) :
    (sortScanCells cells).Pairwise fun lhs rhs => lhs.bits ≤ rhs.bits := by
  have sorted : (sortScanCells cells).Pairwise NotAfter := pairwise_insertionSort _ _
  refine sorted.imp fun {lhs rhs} notAfter => ?_
  rw [notAfter_iff, key, key, Prod.Lex.toLex_le_toLex] at notAfter
  rcases notAfter with less | same
  · exact less.le
  · exact same.1.le

def sizesDown (cells : List ScanCell) : List Nat :=
  (cells.map ScanCell.bits).insertionSort (· ≥ ·)

lemma reverse_sortScanCells_bits (cells : List ScanCell) :
    (sortScanCells cells).reverse.map bits = sizesDown cells := by
  have perm : ((sortScanCells cells).reverse.map bits).Perm (sizesDown cells) :=
    ((reverse_perm _).trans (sortScanCells_perm cells)).map _ |>.trans
      (perm_insertionSort _ _).symm
  have down : ((sortScanCells cells).reverse.map bits).Pairwise (· ≥ ·) := by
    rw [pairwise_map, pairwise_reverse]
    exact sortScanCells_sorted cells
  exact perm.eq_of_pairwise (fun _ _ _ _ ge le => le_antisymm le ge) down
    (pairwise_insertionSort _ _)

lemma find_next {nearest : Nearest} {tree : List Value} (cursor : Value)
    (numbered : (tree.map Prod.snd).Nodup) (two : 2 ≤ tree.length) :
    ∃ next ∈ tree, next.2 ≠ cursor.2 ∧
      (nearest.query cursor.1 kMaxCellsToSearch tree).find? (fun value => value.2 ≠ cursor.2) =
        some next := by
  have part := nearest.subperm cursor.1 kMaxCellsToSearch tree
  have length := nearest.length cursor.1 kMaxCellsToSearch tree
  generalize nearest.query cursor.1 kMaxCellsToSearch tree = found at part length
  have many : 2 ≤ found.length := by
    rw [length, kMaxCellsToSearch]
    omega
  have distinct : (found.map Prod.snd).Nodup := by
    rcases part with ⟨same, isSame, sublist⟩
    exact (isSame.map Prod.snd).nodup ((sublist.map Prod.snd).nodup numbered)
  cases next : found.find? fun value => value.2 ≠ cursor.2 with
  | some value =>
    have isOther := find?_some next
    rw [decide_eq_true_eq] at isOther
    exact ⟨value, part.subset (mem_of_find?_eq_some next), isOther, rfl⟩
  | none =>
    rw [find?_eq_none] at next
    have all : ∀ number ∈ found.map Prod.snd, number = cursor.2 := by
      intro number member
      rcases mem_map.mp member with ⟨value, isValue, rfl⟩
      simpa using next value isValue
    have few := nodup_replicate.mp ((eq_replicate_of_mem all) ▸ distinct)
    rw [length_map] at few
    omega

lemma nextValues_perm {nearest : Nearest} (steps : Nat) {tree : List Value} {cursor : Value}
    (numbered : (tree.map Prod.snd).Nodup) (member : cursor ∈ tree)
    (length : tree.length = steps + 1) :
    ∃ others, nextValues nearest steps tree cursor = .ok others ∧ (cursor :: others).Perm tree := by
  induction steps generalizing tree cursor with
  | zero =>
    rcases length_eq_one_iff.mp length with ⟨only, rfl⟩
    refine ⟨[], rfl, ?_⟩
    rw [mem_singleton.mp member]
  | succ steps ih =>
    rcases find_next cursor numbered (by omega) with
      ⟨next, isValue, isOther, found⟩
    have rest := perm_cons_erase member
    have numberedRest : ((tree.erase cursor).map Prod.snd).Nodup := by
      have both := (rest.map Prod.snd).nodup numbered
      exact (nodup_cons.mp both).2
    have stays : next ∈ tree.erase cursor := by
      refine (mem_erase_of_ne fun same => isOther ?_).mpr isValue
      rw [same]
    have lengthRest : (tree.erase cursor).length = steps + 1 := by
      rw [length_erase_of_mem member, length]
      rfl
    rcases ih numberedRest stays lengthRest with ⟨others, visited, perm⟩
    refine ⟨next :: others, ?_, (perm.cons cursor).trans rest.symm⟩
    rw [nextValues, found]
    exact except_bind_ok visited

lemma filterMap_getElem?_range {α : Type} (items : List α) :
    (range items.length).filterMap (fun i => items[i]?) = items := by
  induction items with
  | nil => rfl
  | cons a rest ih =>
    rw [length_cons, range_succ_eq_map, filterMap_cons_some (by rfl),
      filterMap_map]
    exact congrArg (a :: ·) ih

lemma startIndex_lt {cells : List ScanCell} (notEmpty : cells ≠ []) :
    startIndex cells < cells.length := by
  have distances : cells.map (fun cell => cell.origin.1 + cell.origin.2) ≠ [] := by
    simpa using notEmpty
  have length : (cells.map fun cell => cell.origin.1 + cell.origin.2).length = cells.length :=
    length_map _
  rw [startIndex, ← length]
  generalize cells.map (fun cell => cell.origin.1 + cell.origin.2) = sums at distances ⊢
  apply idxOf_lt_length_of_mem
  cases least : sums.min? with
  | none => exact absurd (min?_eq_none_iff.mp least) distances
  | some sum => exact min?_mem least

lemma optimizeScanWirelength_perm (nearest : Nearest) (cells : List ScanCell) :
    ∃ sorted, optimizeScanWirelength nearest cells = .ok sorted ∧ sorted.Perm cells := by
  rw [optimizeScanWirelength]
  split
  · exact ⟨cells, rfl, Perm.refl _⟩
  · rename_i placed
    have notEmpty : cells ≠ [] := fun empty => placed (.inl empty)
    have length : ((cells.map origin).zipIdx).length = cells.length := by simp
    have numbers : ((cells.map origin).zipIdx).map Prod.snd = range cells.length := by
      rw [zipIdx_map_snd, length_map, range_eq_range']
    have inside := startIndex_lt notEmpty
    rw [← length] at inside
    have start : ((cells.map origin).zipIdx).getD (startIndex cells) ((0, 0), 0) ∈
        (cells.map origin).zipIdx := by
      rw [getD_eq_getElem?_getD, getElem?_eq_getElem inside]
      exact getElem_mem inside
    have positive := length_pos_of_ne_nil notEmpty
    rcases nextValues_perm (cells.length - 1)
      (numbers ▸ nodup_range) start (by omega) with ⟨others, visited, perm⟩
    refine ⟨_, except_bind_ok visited, (perm.filterMap _).trans (Perm.of_eq ?_)⟩
    calc ((cells.map origin).zipIdx).filterMap (fun value => cells[value.2]?)
        = (((cells.map origin).zipIdx).map Prod.snd).filterMap (fun i => cells[i]?) := by
          rw [filterMap_map]
          rfl
      _ = (range cells.length).filterMap fun i => cells[i]? := by rw [numbers]
      _ = cells := filterMap_getElem?_range cells

end OpenRoad.Dft
