import Mathlib.Data.String.Basic
import Mathlib.Tactic

/-! How the cells of a design are put into scan chains. -/

namespace OpenRoad.Dft

inductive ClockEdge
  | Rising
  | Falling
deriving DecidableEq

def ClockEdge.value : ClockEdge → Nat
  | Rising => 0
  | Falling => 1

structure ClockDomain where
  clock_name : String
  clock_edge : ClockEdge
deriving DecidableEq

def fnv1a (data : List UInt8) : UInt64 :=
  data.foldl (fun hash byte => (hash ^^^ byte.toUInt64) * 0x00000100000001b3) 0xcbf29ce484222325

def ClockDomain.getClockDomainId (domain : ClockDomain) : Nat :=
  (fnv1a domain.clock_name.toUTF8.toList ^^^ fnv1a [domain.clock_edge.value.toUInt8, 0, 0, 0]).toNat

structure ScanCell where
  name : String
  bits : Nat
  clock_domain : ClockDomain
  isPlaced : Bool
  origin : Int × Int
deriving DecidableEq

inductive ClockMixing
  | NoMix
  | ClockMix
deriving DecidableEq

structure ScanArchitectConfig where
  max_length : Option Nat
  max_chains : Option Nat
  clock_mixing : ClockMixing
deriving DecidableEq

def ScanArchitectConfig.clockDomainHash (config : ScanArchitectConfig) (domain : ClockDomain) : Nat :=
  match config.clock_mixing with
  | .NoMix => domain.getClockDomainId
  | .ClockMix => 1

def ScanArchitectConfig.hashDomain (config : ScanArchitectConfig) (cell : ScanCell) : Nat :=
  config.clockDomainHash cell.clock_domain

/-- Fewer bits first, then by the name and the edge of the clock. -/
def compareScanCells (lhs rhs : ScanCell) : Bool :=
  if lhs.bits = rhs.bits then
    if lhs.clock_domain.clock_name = rhs.clock_domain.clock_name then
      lhs.clock_domain.clock_edge.value < rhs.clock_domain.clock_edge.value
    else lhs.clock_domain.clock_name < rhs.clock_domain.clock_name
  else lhs.bits < rhs.bits

def NotAfter (lhs rhs : ScanCell) : Prop := ¬ compareScanCells rhs lhs = true

instance : DecidableRel NotAfter := fun lhs rhs =>
  inferInstanceAs (Decidable (¬ compareScanCells rhs lhs = true))

def sortScanCells (cells : List ScanCell) : List ScanCell := cells.insertionSort NotAfter

def ScanArchitectConfig.bucket (config : ScanArchitectConfig) (cells : List ScanCell)
    (hash_domain : Nat) : List ScanCell :=
  sortScanCells (cells.filter fun cell => config.hashDomain cell = hash_domain)

def ScanArchitectConfig.hashDomains (config : ScanArchitectConfig) (cells : List ScanCell) :
    List Nat :=
  ((cells.map config.hashDomain).dedup).insertionSort (· ≤ ·)

def totalBits (cells : List ScanCell) : Nat := (cells.map ScanCell.bits).sum

structure HashDomainLimits where
  chain_count : Nat
  max_length : Nat
deriving DecidableEq

def inferChainCountFromMaxLength (bits max_length : Nat) (max_chains : Option Nat) :
    HashDomainLimits :=
  let domain_chain_count :=
    if bits % max_length ≠ 0 then bits / max_length + 1 else bits / max_length
  let domain_chain_count :=
    match max_chains with
    | some max_chains => min domain_chain_count max_chains
    | none => domain_chain_count
  let domain_max_length :=
    if bits % domain_chain_count = 0 then bits / domain_chain_count
    else bits / domain_chain_count + 1
  ⟨domain_chain_count, domain_max_length⟩

def ScanArchitectConfig.limits (config : ScanArchitectConfig) (cells : List ScanCell)
    (hash_domain : Nat) : HashDomainLimits :=
  inferChainCountFromMaxLength (totalBits (config.bucket cells hash_domain))
    (config.max_length.getD 200) config.max_chains

abbrev Point := Int × Int

abbrev Value := Point × Nat

def kMaxCellsToSearch : Nat := 10

structure Nearest where
  query : Point → Nat → List Value → List Value
  subperm : ∀ point k values, (query point k values).Subperm values
  length : ∀ point k values, (query point k values).length = min k values.length

def noNeighbor : String := "Couldn't find nearest neighbor, too many overlapping cells"

/-- From value to value, each time to the first other one that the index finds. -/
def nextValues (nearest : Nearest) : Nat → List Value → Value → Except String (List Value)
  | 0, _, _ => .ok []
  | steps + 1, tree, cursor =>
    match (nearest.query cursor.1 kMaxCellsToSearch tree).find? fun value => value.2 ≠ cursor.2 with
    | none => .error noNeighbor
    | some next => do
      let others ← nextValues nearest steps (tree.erase cursor) next
      .ok (next :: others)

def startIndex (cells : List ScanCell) : Nat :=
  (cells.map fun cell => cell.origin.1 + cell.origin.2).idxOf
    ((cells.map fun cell => cell.origin.1 + cell.origin.2).min?.getD 0)

def optimizeScanWirelength (nearest : Nearest) (cells : List ScanCell) :
    Except String (List ScanCell) :=
  if cells = [] ∨ ∃ cell ∈ cells, ¬ cell.isPlaced then .ok cells
  else do
    let transformed := (cells.map ScanCell.origin).zipIdx
    let cursor := transformed.getD (startIndex cells) ((0, 0), 0)
    let others ← nextValues nearest (cells.length - 1) transformed cursor
    .ok ((cursor :: others).filterMap fun value => cells[value.2]?)

structure ScanChain where
  name : String
  bits : Nat
  rising_edge_scan_cells : List ScanCell
  falling_edge_scan_cells : List ScanCell
  scan_cells : List ScanCell
deriving DecidableEq

def ScanChain.new (name : String) : ScanChain := ⟨name, 0, [], [], []⟩

def ScanChain.add (chain : ScanChain) (cell : ScanCell) : ScanChain :=
  match cell.clock_domain.clock_edge with
  | .Rising =>
    { chain with
      bits := chain.bits + cell.bits
      rising_edge_scan_cells := chain.rising_edge_scan_cells ++ [cell] }
  | .Falling =>
    { chain with
      bits := chain.bits + cell.bits
      falling_edge_scan_cells := chain.falling_edge_scan_cells ++ [cell] }

/-- Each edge is ordered for itself, falling edges first. -/
def ScanChain.sortScanCells (nearest : Nearest) (chain : ScanChain) : Except String ScanChain := do
  let falling ← optimizeScanWirelength nearest chain.falling_edge_scan_cells
  let rising ← optimizeScanWirelength nearest chain.rising_edge_scan_cells
  .ok { chain with
    rising_edge_scan_cells := []
    falling_edge_scan_cells := []
    scan_cells := chain.scan_cells ++ falling ++ rising }

def fillChain (max_length : Nat) (chain : ScanChain) : List ScanCell → ScanChain × List ScanCell
  | [] => (chain, [])
  | cell :: bucket =>
    if chain.bits < max_length then fillChain max_length (chain.add cell) bucket
    else (chain, cell :: bucket)

def architectDomain (nearest : Nearest) (max_length : Nat) :
    List ScanChain → List ScanCell → Except String (List ScanChain)
  | [], _ => .ok []
  | chain :: chains, bucket => do
    let filled := fillChain max_length chain bucket
    let sorted ← filled.1.sortScanCells nearest
    let others ← architectDomain nearest max_length chains filled.2
    .ok (sorted :: others)

def createScanChains (first count : Nat) : List ScanChain :=
  (List.range count).map fun i => ScanChain.new s!"chain_{first + i}"

/-- The chains of all hash domains, each with its cells. -/
def ScanArchitectConfig.architectAll (config : ScanArchitectConfig) (nearest : Nearest)
    (cells : List ScanCell) : Nat → List Nat → Except String (List (Nat × List ScanChain))
  | _, [] => .ok []
  | first, hash_domain :: hash_domains => do
    let limits := config.limits cells hash_domain
    let chains ← architectDomain nearest limits.max_length
      (createScanChains first limits.chain_count) (config.bucket cells hash_domain).reverse
    let others ← config.architectAll nearest cells (first + limits.chain_count) hash_domains
    .ok ((hash_domain, chains) :: others)

/-- `init` and `architect`. -/
def ScanArchitectConfig.architect (config : ScanArchitectConfig) (nearest : Nearest)
    (cells : List ScanCell) : Except String (List (Nat × List ScanChain)) :=
  config.architectAll nearest cells 0 (config.hashDomains cells)

def getScanChains (chains : List (Nat × List ScanChain)) : List ScanChain :=
  (chains.flatMap Prod.snd).insertionSort fun lhs rhs => lhs.name ≤ rhs.name

end OpenRoad.Dft
