import OpenRoad.Dft.ScanOrder
import OpenRoad.Lib.Chunks
import OpenRoad.Lib.Pairing
import Mathlib.Algebra.Order.Floor.Div

/-! Scan chains hold every cell once; when each of them holds some. -/

namespace OpenRoad.Dft

open OpenRoad.Lib List ScanArchitectConfig ScanChain
open scoped List

lemma add_bits (chain : ScanChain) (cell : ScanCell) :
    (chain.add cell).bits = chain.bits + cell.bits := by
  rw [add]
  split
  · rfl
  · rfl

lemma fillChain_eq (max_length : Nat) (chain : ScanChain) (bucket : List ScanCell) :
    fillChain max_length chain bucket =
      ((fill ScanCell.bits max_length chain.bits bucket).1.foldl add chain,
        (fill ScanCell.bits max_length chain.bits bucket).2) := by
  induction bucket generalizing chain with
  | nil => rfl
  | cons cell bucket ih =>
    rw [fillChain, fill]
    split
    · rw [ih, add_bits]
      rfl
    · rfl

def isFalling (cell : ScanCell) : Bool := cell.clock_domain.clock_edge = .Falling

lemma foldl_add (chain : ScanChain) (cells : List ScanCell) :
    (cells.foldl add chain).falling_edge_scan_cells =
        chain.falling_edge_scan_cells ++ cells.filter isFalling ∧
      (cells.foldl add chain).rising_edge_scan_cells =
        chain.rising_edge_scan_cells ++ cells.filter (fun cell => ¬ isFalling cell) ∧
      (cells.foldl add chain).scan_cells = chain.scan_cells := by
  induction cells generalizing chain with
  | nil => simp
  | cons cell cells ih =>
    rw [foldl_cons]
    rcases ih (chain.add cell) with ⟨falling, rising, sorted⟩
    rw [falling, rising, sorted]
    cases edge : cell.clock_domain.clock_edge with
    | Rising => simp [add, edge, isFalling]
    | Falling => simp [add, edge, isFalling]

def Holds (chunk : List ScanCell) (chain : ScanChain) : Prop :=
  ∃ falling rising, chain.scan_cells = falling ++ rising ∧ falling.Perm (chunk.filter isFalling) ∧
    rising.Perm (chunk.filter fun cell => ¬ isFalling cell)

lemma Holds.perm {chunk : List ScanCell} {chain : ScanChain} (holds : Holds chunk chain) :
    chain.scan_cells.Perm chunk := by
  rcases holds with ⟨falling, rising, isChain, isFalling, isRising⟩
  rw [isChain]
  have both := filter_append_perm Dft.isFalling chunk
  simp only [Bool.not_eq_true, Bool.decide_eq_false] at isRising
  exact (isFalling.append isRising).trans both

lemma sortScanCells_holds (nearest : Nearest) (name : String) (chunk : List ScanCell) :
    ∃ sorted, (chunk.foldl add (new name)).sortScanCells nearest = .ok sorted ∧
      Holds chunk sorted := by
  rcases foldl_add (new name) chunk with ⟨falling, rising, none⟩
  generalize chunk.foldl add (new name) = chain at falling rising none ⊢
  rcases optimizeScanWirelength_perm nearest chain.falling_edge_scan_cells with
    ⟨falling', isFalling', permFalling⟩
  rcases optimizeScanWirelength_perm nearest chain.rising_edge_scan_cells with
    ⟨rising', isRising', permRising⟩
  refine ⟨_, (except_bind_ok isFalling').trans (except_bind_ok isRising'), falling', rising', ?_,
    permFalling.trans ?_, permRising.trans ?_⟩
  · rw [none]
    rfl
  · rw [falling]
    exact Perm.refl _
  · rw [rising]
    exact Perm.refl _

lemma architectDomain_holds (nearest : Nearest) (max_length : Nat) (chains : List ScanChain)
    (new : ∀ chain ∈ chains, ∃ name, chain = new name) (bucket : List ScanCell) :
    ∃ result, architectDomain nearest max_length chains bucket = .ok result ∧
      Forall₂ Holds (fillAll ScanCell.bits max_length chains.length bucket).1 result := by
  induction chains generalizing bucket with
  | nil => exact ⟨[], rfl, Forall₂.nil⟩
  | cons chain chains ih =>
    rcases new chain mem_cons_self with ⟨name, rfl⟩
    rcases ih (fun other member => new other (mem_cons_of_mem _ member))
      (fill ScanCell.bits max_length 0 bucket).2 with ⟨others, isOthers, holdOthers⟩
    rcases sortScanCells_holds nearest name (fill ScanCell.bits max_length 0 bucket).1 with
      ⟨sorted, isSorted, holds⟩
    refine ⟨sorted :: others, ?_, Forall₂.cons holds holdOthers⟩
    rw [architectDomain, fillChain_eq]
    exact (except_bind_ok isSorted).trans (except_bind_ok isOthers)

lemma ceil_eq {bits divisor : Nat} (positive : 0 < divisor) :
    (if bits % divisor ≠ 0 then bits / divisor + 1 else bits / divisor) = bits ⌈/⌉ divisor := by
  have whole := Nat.div_add_mod bits divisor
  have small := Nat.mod_lt bits positive
  split
  · rename_i rest
    apply le_antisymm
    · by_contra more
      have le : bits ≤ divisor * (bits / divisor) :=
        (ceilDiv_le_iff_le_mul positive).mp (by omega)
      omega
    · rw [ceilDiv_le_iff_le_mul positive, Nat.mul_add]
      omega
  · rename_i rest
    apply le_antisymm
    · have le := (ceilDiv_le_iff_le_mul positive).mp (le_refl (bits ⌈/⌉ divisor))
      by_contra more
      have fewer : bits ⌈/⌉ divisor + 1 ≤ bits / divisor := by omega
      have product := Nat.mul_le_mul_left divisor fewer
      rw [Nat.mul_add] at product
      omega
    · rw [ceilDiv_le_iff_le_mul positive]
      omega

def chainCount (config : ScanArchitectConfig) (bits : Nat) : Nat :=
  match config.max_chains with
  | some max_chains => min (bits ⌈/⌉ (config.max_length.getD 200)) max_chains
  | none => bits ⌈/⌉ (config.max_length.getD 200)

structure Sensible (config : ScanArchitectConfig) : Prop where
  max_length : 0 < config.max_length.getD 200
  max_chains : ∀ max_chains ∈ config.max_chains, 0 < max_chains

lemma chainCount_pos {config : ScanArchitectConfig} (sensible : Sensible config) {bits : Nat}
    (some : 0 < bits) : 0 < chainCount config bits := by
  have wanted : 0 < bits ⌈/⌉ (config.max_length.getD 200) := by
    by_contra zero
    have le : bits ≤ config.max_length.getD 200 * 0 :=
      (ceilDiv_le_iff_le_mul sensible.max_length).mp (by omega)
    omega
  rw [chainCount]
  cases isMax : config.max_chains with
  | none => exact wanted
  | some max_chains => exact lt_min wanted (sensible.max_chains max_chains isMax)

lemma inferChainCount_eq {config : ScanArchitectConfig} (sensible : Sensible config) {bits : Nat}
    (some : 0 < bits) :
    inferChainCountFromMaxLength bits (config.max_length.getD 200) config.max_chains =
      ⟨chainCount config bits, bits ⌈/⌉ chainCount config bits⟩ := by
  have positive := chainCount_pos sensible some
  have halves : ∀ count, 0 < count →
      (if bits % count = 0 then bits / count else bits / count + 1) = bits ⌈/⌉ count := by
    intro count isPositive
    rw [← ceil_eq isPositive]
    simp only [ne_eq, ite_not]
  simp only [inferChainCountFromMaxLength, ceil_eq sensible.max_length]
  rw [chainCount] at positive ⊢
  cases isMax : config.max_chains with
  | none =>
    rw [isMax] at positive
    exact congrArg (HashDomainLimits.mk _) (halves _ positive)
  | some max_chains =>
    rw [isMax] at positive
    exact congrArg (HashDomainLimits.mk _) (halves _ positive)

section

variable {config : ScanArchitectConfig} {nearest : Nearest} {cells : List ScanCell}

lemma mem_hashDomains (hash_domain : Nat) :
    hash_domain ∈ config.hashDomains cells ↔ ∃ cell ∈ cells, config.hashDomain cell = hash_domain := by
  rw [hashDomains, (perm_insertionSort _ _).mem_iff, mem_dedup,
    mem_map]

lemma nodup_hashDomains : (config.hashDomains cells).Nodup :=
  (perm_insertionSort _ _).nodup_iff.mpr (nodup_dedup _)

lemma bucket_perm (hash_domain : Nat) : (config.bucket cells hash_domain).Perm
    (cells.filter fun cell => config.hashDomain cell = hash_domain) :=
  sortScanCells_perm _

/-- The chunks that the chains of a hash domain are filled with. -/
def domainChunks (config : ScanArchitectConfig) (cells : List ScanCell) (hash_domain : Nat) :
    List (List ScanCell) × List ScanCell :=
  fillAll ScanCell.bits (config.limits cells hash_domain).max_length
    (config.limits cells hash_domain).chain_count (config.bucket cells hash_domain).reverse

def HoldsDomain (config : ScanArchitectConfig) (cells : List ScanCell) (hash_domain : Nat)
    (entry : Nat × List ScanChain) : Prop :=
  entry.1 = hash_domain ∧ List.Forall₂ Holds (domainChunks config cells hash_domain).1 entry.2

lemma architectAll_holds (first : Nat) (hash_domains : List Nat) :
    ∃ result, config.architectAll nearest cells first hash_domains = .ok result ∧
      Forall₂ (HoldsDomain config cells) hash_domains result := by
  induction hash_domains generalizing first with
  | nil => exact ⟨[], rfl, Forall₂.nil⟩
  | cons hash_domain hash_domains ih =>
    have new : ∀ chain ∈ createScanChains first (config.limits cells hash_domain).chain_count,
        ∃ name, chain = new name := by
      intro chain member
      rcases mem_map.mp member with ⟨i, _, rfl⟩
      exact ⟨_, rfl⟩
    rcases architectDomain_holds nearest (config.limits cells hash_domain).max_length _ new
      (config.bucket cells hash_domain).reverse with ⟨chains, isChains, holds⟩
    rw [createScanChains, length_map, length_range] at holds
    rcases ih (first + (config.limits cells hash_domain).chain_count) with
      ⟨others, isOthers, holdOthers⟩
    refine ⟨(hash_domain, chains) :: others, ?_, Forall₂.cons ⟨rfl, holds⟩ holdOthers⟩
    rw [architectAll]
    exact (except_bind_ok isChains).trans (except_bind_ok isOthers)

lemma totalBits_bucket (hash_domain : Nat) : totalBits (config.bucket cells hash_domain) =
      totalSize ScanCell.bits (config.bucket cells hash_domain).reverse := by
  rw [totalBits, totalSize, map_reverse, sum_reverse]

variable {hash_domain : Nat}

lemma bucket_ne_nil (isDomain : hash_domain ∈ config.hashDomains cells) :
    (config.bucket cells hash_domain).reverse ≠ [] := by
  rcases (mem_hashDomains hash_domain).mp isDomain with ⟨cell, member, same⟩
  have inside : cell ∈ (config.bucket cells hash_domain).reverse := by
    rw [mem_reverse, (bucket_perm hash_domain).mem_iff, mem_filter, decide_eq_true_eq]
    exact ⟨member, same⟩
  exact ne_nil_of_mem inside

lemma bucket_bits (bits : ∀ cell ∈ cells, 0 < cell.bits) :
    ∀ cell ∈ (config.bucket cells hash_domain).reverse, 0 < cell.bits := by
  intro cell member
  rw [mem_reverse, (bucket_perm hash_domain).mem_iff] at member
  exact bits cell (mem_filter.mp member).1

lemma totalBits_pos (bits : ∀ cell ∈ cells, 0 < cell.bits)
    (isDomain : hash_domain ∈ config.hashDomains cells) :
    0 < totalBits (config.bucket cells hash_domain) := by
  have positive : ∀ cell ∈ (config.bucket cells hash_domain).reverse, 0 < cell.bits :=
    bucket_bits bits
  have notEmpty := bucket_ne_nil isDomain
  rw [totalBits_bucket]
  generalize (config.bucket cells hash_domain).reverse = items at positive notEmpty
  cases items with
  | nil => exact absurd rfl notEmpty
  | cons cell items =>
    have first := positive cell mem_cons_self
    rw [totalSize_cons]
    omega

lemma limits_eq (sensible : Sensible config) (bits : ∀ cell ∈ cells, 0 < cell.bits)
    (isDomain : hash_domain ∈ config.hashDomains cells) : config.limits cells hash_domain =
      ⟨chainCount config (totalBits (config.bucket cells hash_domain)),
        totalBits (config.bucket cells hash_domain) ⌈/⌉
          chainCount config (totalBits (config.bucket cells hash_domain))⟩ :=
  inferChainCount_eq sensible (totalBits_pos bits isDomain)

lemma domainChunks_flatten (sensible : Sensible config) (bits : ∀ cell ∈ cells, 0 < cell.bits)
    (isDomain : hash_domain ∈ config.hashDomains cells) :
    (domainChunks config cells hash_domain).1.flatten =
      (config.bucket cells hash_domain).reverse := by
  have positive := chainCount_pos sensible (totalBits_pos bits isDomain)
  have enough : totalSize ScanCell.bits (config.bucket cells hash_domain).reverse ≤
      (config.limits cells hash_domain).chain_count *
        (config.limits cells hash_domain).max_length := by
    rw [limits_eq sensible bits isDomain, ← totalBits_bucket]
    exact (ceilDiv_le_iff_le_mul positive).mp le_rfl
  have left : (domainChunks config cells hash_domain).2 = [] :=
    fillAll_left (bucket_bits bits) enough
  have split := fillAll_append ScanCell.bits (config.limits cells hash_domain).max_length
    (config.limits cells hash_domain).chain_count (config.bucket cells hash_domain).reverse
  rw [domainChunks] at left ⊢
  rw [left, append_nil] at split
  exact split

end

lemma flatMap_filter_perm {α κ : Type} [DecidableEq κ] (key : α → κ) (items : List α)
    {keys : List κ} (nodup : keys.Nodup) :
    (keys.flatMap fun k => items.filter fun a => key a = k).Perm
      (items.filter fun a => key a ∈ keys) := by
  induction keys with
  | nil => simp
  | cons k keys ih =>
    rcases nodup_cons.mp nodup with ⟨fresh, nodupRest⟩
    have split := filter_append_perm (fun a => decide (key a = k))
      (items.filter fun a => key a ∈ k :: keys)
    rw [filter_filter, filter_filter] at split
    have here : items.filter (fun a => decide (key a = k) && decide (key a ∈ k :: keys)) =
        items.filter fun a => key a = k := by
      apply filter_congr
      intro a _
      by_cases same : key a = k
      · simp [same]
      · simp [same]
    have rest : items.filter (fun a => !decide (key a = k) && decide (key a ∈ k :: keys)) =
        items.filter fun a => key a ∈ keys := by
      apply filter_congr
      intro a _
      by_cases same : key a = k
      · simp [same, fresh]
      · simp [same]
    rw [here, rest] at split
    rw [flatMap_cons]
    exact ((ih nodupRest).append_left _).trans split

/-- All chains of a design with their cells, apart from whether each holds some. -/
structure WellArchitected (config : ScanArchitectConfig) (cells : List ScanCell)
    (result : List (Nat × List ScanChain)) : Prop where
  complete : ((getScanChains result).flatMap ScanChain.scan_cells).Perm cells
  one_domain : ∀ entry ∈ result, ∀ chain ∈ entry.2, ∀ cell ∈ chain.scan_cells,
    config.hashDomain cell = entry.1
  falling_first : ∀ chain ∈ getScanChains result, ∃ falling rising,
    chain.scan_cells = falling ++ rising ∧ (∀ cell ∈ falling, isFalling cell = true) ∧
      ∀ cell ∈ rising, isFalling cell = false
  limited : (∀ cell ∈ cells, cell.bits = 1) → ∀ entry ∈ result, (∀ chain ∈ entry.2,
      chain.scan_cells.length ≤ (config.limits cells entry.1).max_length) ∧
    (config.max_chains = none →
      (config.limits cells entry.1).max_length ≤ config.max_length.getD 200)

/-- The bits that share a hash domain, from the largest down, can be cut into the chains. -/
def CutsIntoChains (config : ScanArchitectConfig) (cells : List ScanCell) : Prop :=
  ∀ hash_domain ∈ config.hashDomains cells,
    let sizes := sizesDown (cells.filter fun cell => config.hashDomain cell = hash_domain)
    let chains := chainCount config sizes.sum
    Cuts id (sizes.sum ⌈/⌉ chains) chains sizes

section

variable {config : ScanArchitectConfig} {cells : List ScanCell}
  {result : List (Nat × List ScanChain)}

lemma getScanChains_perm : (getScanChains result).Perm (result.flatMap Prod.snd) :=
  perm_insertionSort _ _

lemma mem_getScanChains (chain : ScanChain) :
    chain ∈ getScanChains result ↔ ∃ entry ∈ result, chain ∈ entry.2 := by
  rw [getScanChains_perm.mem_iff, mem_flatMap]

lemma holds_flatten {chunks : List (List ScanCell)} {chains : List ScanChain}
    (holds : Forall₂ Holds chunks chains) :
    (chains.flatMap ScanChain.scan_cells).Perm chunks.flatten := by
  induction holds with
  | nil => exact Perm.refl _
  | cons first _ ih =>
    rw [flatMap_cons, flatten_cons]
    exact first.perm.append ih

lemma chain_holds (both : Forall₂ (HoldsDomain config cells) (config.hashDomains cells) result)
    {entry : Nat × List ScanChain} (isEntry : entry ∈ result) {chain : ScanChain}
    (isChain : chain ∈ entry.2) :
    entry.1 ∈ config.hashDomains cells ∧
      ∃ chunk ∈ (domainChunks config cells entry.1).1, Holds chunk chain := by
  rcases forall₂_right both isEntry with ⟨hash_domain, isDomain, rfl, holds⟩
  exact ⟨isDomain, forall₂_right holds isChain⟩

lemma complete_of_holds (sensible : Sensible config) (bits : ∀ cell ∈ cells, 0 < cell.bits)
    (both : Forall₂ (HoldsDomain config cells) (config.hashDomains cells) result) :
    ((getScanChains result).flatMap ScanChain.scan_cells).Perm cells := by
  have domains : ∀ (hash_domains : List Nat) (entries : List (Nat × List ScanChain)),
      (∀ hash_domain ∈ hash_domains, hash_domain ∈ config.hashDomains cells) →
      Forall₂ (HoldsDomain config cells) hash_domains entries →
      ((entries.flatMap Prod.snd).flatMap ScanChain.scan_cells).Perm
        (hash_domains.flatMap fun hash_domain =>
          cells.filter fun cell => config.hashDomain cell = hash_domain) := by
    intro hash_domains entries inside holds
    induction holds with
    | nil => exact Perm.refl _
    | @cons hash_domain entry hash_domains entries first _ ih =>
      rw [flatMap_cons, flatMap_append, flatMap_cons]
      refine Perm.append ?_ (ih fun other member => inside other (mem_cons_of_mem _ member))
      refine (holds_flatten first.2).trans ?_
      rw [domainChunks_flatten sensible bits (inside hash_domain mem_cons_self)]
      exact (reverse_perm _).trans (bucket_perm hash_domain)
  have all : cells.filter (fun cell => config.hashDomain cell ∈ config.hashDomains cells) = cells := by
    apply filter_eq_self.mpr
    intro cell member
    rw [decide_eq_true_eq, mem_hashDomains]
    exact ⟨cell, member, rfl⟩
  have nodup : (config.hashDomains cells).Nodup := nodup_hashDomains
  have filtered := flatMap_filter_perm config.hashDomain cells nodup
  rw [all] at filtered
  calc (getScanChains result).flatMap ScanChain.scan_cells
      ~ (result.flatMap Prod.snd).flatMap ScanChain.scan_cells := getScanChains_perm.flatMap_right _
    _ ~ (config.hashDomains cells).flatMap fun hash_domain =>
          cells.filter fun cell => config.hashDomain cell = hash_domain :=
        domains _ _ (fun _ member => member) both
    _ ~ cells := filtered

lemma wellArchitected_of_holds (sensible : Sensible config) (bits : ∀ cell ∈ cells, 0 < cell.bits)
    (both : Forall₂ (HoldsDomain config cells) (config.hashDomains cells) result) :
    WellArchitected config cells result where
  complete := complete_of_holds sensible bits both
  one_domain := by
    intro entry isEntry chain isChain cell inside
    rcases chain_holds both isEntry isChain with ⟨isDomain, chunk, isChunk, holds⟩
    rw [holds.perm.mem_iff] at inside
    have inBucket : cell ∈ (config.bucket cells entry.1).reverse := by
      rw [← domainChunks_flatten sensible bits isDomain]
      exact mem_flatten.mpr ⟨chunk, isChunk, inside⟩
    rw [mem_reverse, (bucket_perm entry.1).mem_iff, mem_filter,
      decide_eq_true_eq] at inBucket
    exact inBucket.2
  falling_first := by
    intro chain member
    rcases (mem_getScanChains chain).mp member with ⟨entry, isEntry, isChain⟩
    rcases chain_holds both isEntry isChain with
      ⟨_, chunk, _, falling, rising, isCells, areFalling, areRising⟩
    refine ⟨falling, rising, isCells, fun cell inside => ?_, fun cell inside => ?_⟩
    · exact (mem_filter.mp (areFalling.mem_iff.mp inside)).2
    · simpa using (mem_filter.mp (areRising.mem_iff.mp inside)).2
  limited := by
    intro ones entry isEntry
    refine ⟨fun chain isChain => ?_, fun unbounded => ?_⟩
    · rcases chain_holds both isEntry isChain with ⟨_, chunk, isChunk, holds⟩
      have onesInBucket : ∀ cell ∈ (config.bucket cells entry.1).reverse, cell.bits = 1 := by
        intro cell inside
        rw [mem_reverse, (bucket_perm entry.1).mem_iff] at inside
        exact ones cell (mem_filter.mp inside).1
      have small := fillAll_le onesInBucket isChunk
      have length : totalSize ScanCell.bits chunk = chunk.length := by
        have inBucket := fillAll_append ScanCell.bits (config.limits cells entry.1).max_length
          (config.limits cells entry.1).chain_count (config.bucket cells entry.1).reverse
        have each : ∀ cell ∈ chunk, cell.bits = 1 := by
          intro cell inside
          apply onesInBucket
          rw [← inBucket]
          exact mem_append_left _ (mem_flatten.mpr ⟨chunk, isChunk, inside⟩)
        rw [totalSize, map_congr_left each, map_const', sum_replicate_nat, mul_one]
      rw [holds.perm.length_eq, ← length]
      exact small
    · rcases forall₂_right both isEntry with ⟨hash_domain, isDomain, rfl, _⟩
      have positive := chainCount_pos sensible (totalBits_pos bits isDomain)
      rw [limits_eq sensible bits isDomain]
      dsimp only
      rw [ceilDiv_le_iff_le_mul positive, chainCount, unbounded]
      dsimp only
      rw [mul_comm, ← ceilDiv_le_iff_le_mul sensible.max_length]

lemma filled_iff_cuts (sensible : Sensible config) (bits : ∀ cell ∈ cells, 0 < cell.bits)
    (both : Forall₂ (HoldsDomain config cells) (config.hashDomains cells) result) :
    (∀ chain ∈ getScanChains result, chain.scan_cells ≠ []) ↔ CutsIntoChains config cells := by
  have perChunk : (∀ chain ∈ getScanChains result, chain.scan_cells ≠ []) ↔
      ∀ hash_domain ∈ config.hashDomains cells,
        ∀ chunk ∈ (domainChunks config cells hash_domain).1, chunk ≠ [] := by
    constructor
    · intro filled hash_domain isDomain chunk isChunk empty
      rcases forall₂_left both isDomain with ⟨entry, isEntry, _, holds⟩
      rcases forall₂_left holds isChunk with ⟨chain, isChain, holdsChunk⟩
      have isHeld : Holds chunk chain := holdsChunk
      have perm := isHeld.perm
      rw [empty] at perm
      exact filled chain ((mem_getScanChains chain).mpr ⟨entry, isEntry, isChain⟩) perm.eq_nil
    · intro filled chain member empty
      rcases (mem_getScanChains chain).mp member with ⟨entry, isEntry, isChain⟩
      rcases chain_holds both isEntry isChain with ⟨isDomain, chunk, isChunk, holds⟩
      have perm := holds.perm
      rw [empty] at perm
      exact filled entry.1 isDomain chunk isChunk perm.nil_eq.symm
  rw [perChunk, CutsIntoChains]
  refine forall₂_congr fun hash_domain isDomain => ?_
  have sizes : sizesDown (cells.filter fun cell => config.hashDomain cell = hash_domain) =
      (config.bucket cells hash_domain).reverse.map ScanCell.bits :=
    (reverse_sortScanCells_bits _).symm
  have total : (sizesDown (cells.filter fun cell => config.hashDomain cell = hash_domain)).sum =
      totalBits (config.bucket cells hash_domain) := by
    rw [sizes, totalBits_bucket]
    rfl
  have positive := chainCount_pos sensible (totalBits_pos bits isDomain)
  have long : 0 < totalBits (config.bucket cells hash_domain) ⌈/⌉
      chainCount config (totalBits (config.bucket cells hash_domain)) := by
    by_contra zero
    have le : totalBits (config.bucket cells hash_domain) ≤
        chainCount config (totalBits (config.bucket cells hash_domain)) * 0 :=
      (ceilDiv_le_iff_le_mul positive).mp (by omega)
    have some := totalBits_pos bits isDomain
    omega
  dsimp only
  rw [total, sizes, domainChunks, limits_eq sensible bits isDomain, cuts_map]
  dsimp only
  rcases Nat.exists_eq_add_one_of_ne_zero (Nat.ne_of_gt positive) with ⟨others, isCount⟩
  rw [isCount] at long ⊢
  exact fillAll_ne_nil_iff long (bucket_ne_nil isDomain)

/-- The chains are well architected, and none of them is empty exactly if the cells of each hash
domain can be cut into as many chains as are made for them. -/
theorem architect_fills_iff (config : ScanArchitectConfig) (nearest : Nearest)
    (cells : List ScanCell) (sensible : Sensible config) (bits : ∀ cell ∈ cells, 0 < cell.bits) :
    ∃ result, config.architect nearest cells = .ok result ∧ WellArchitected config cells result ∧
      (WellArchitected config cells result ∧ (∀ chain ∈ getScanChains result, chain.scan_cells ≠ []) ↔
        CutsIntoChains config cells) := by
  have all : ∃ result, config.architect nearest cells = .ok result ∧
      List.Forall₂ (HoldsDomain config cells) (config.hashDomains cells) result :=
    architectAll_holds 0 _
  rcases all with ⟨result, isResult, both⟩
  have well := wellArchitected_of_holds sensible bits both
  refine ⟨result, isResult, well, ?_⟩
  rw [filled_iff_cuts sensible bits both]
  exact and_iff_right well

end

def firstValues : Nearest where
  query := fun _ k values => values.take k
  subperm := fun _ k values => (take_sublist k values).subperm
  length := fun _ _ _ => length_take

def unplacedCell (name : String) : ScanCell := ⟨name, 1, ⟨"clk", .Rising⟩, false, (0, 0)⟩

theorem architect_fills_iff_sample :
    ∃ result, architect ⟨some 2, none, .NoMix⟩ firstValues
        [unplacedCell "a", unplacedCell "b", unplacedCell "c"] = .ok result ∧
      WellArchitected ⟨some 2, none, .NoMix⟩
          [unplacedCell "a", unplacedCell "b", unplacedCell "c"] result ∧
      (WellArchitected ⟨some 2, none, .NoMix⟩
          [unplacedCell "a", unplacedCell "b", unplacedCell "c"] result ∧
          (∀ chain ∈ getScanChains result, chain.scan_cells ≠ []) ↔
        CutsIntoChains ⟨some 2, none, .NoMix⟩
          [unplacedCell "a", unplacedCell "b", unplacedCell "c"]) :=
  architect_fills_iff ⟨some 2, none, .NoMix⟩ firstValues
    [unplacedCell "a", unplacedCell "b", unplacedCell "c"]
    ⟨by decide, fun _ none => by cases none⟩ (by decide)

/-- Five cells in four chains of at most two: the fourth one gets none. -/
theorem last_chain_empty :
    ∃ result, architect ⟨some 1, some 4, .ClockMix⟩ firstValues
        (["a", "b", "c", "d", "e"].map unplacedCell) = .ok result ∧
      ∃ chain ∈ getScanChains result, chain.scan_cells = [] := by
  have chains : (architect ⟨some 1, some 4, .ClockMix⟩ firstValues
      (["a", "b", "c", "d", "e"].map unplacedCell)).map (fun result =>
        (getScanChains result).any fun chain => chain.scan_cells.isEmpty) = .ok true := by
    decide
  cases found : architect ⟨some 1, some 4, .ClockMix⟩ firstValues
      (["a", "b", "c", "d", "e"].map unplacedCell) with
  | error message =>
    rw [found] at chains
    cases chains
  | ok result =>
    rw [found] at chains
    have empty : ((getScanChains result).any fun chain => chain.scan_cells.isEmpty) = true :=
      Except.ok.inj chains
    rcases List.any_eq_true.mp empty with ⟨chain, member, none⟩
    exact ⟨result, rfl, chain, member, List.isEmpty_iff.mp none⟩

end OpenRoad.Dft
