import OpenRoad.Dft.ScanLinks
import OpenRoad.Lib.Effects

/-! `ScanStitch::Stitch` on the pins, ports and nets of a block. -/

namespace OpenRoad.Dft

open OpenRoad.Lib Effect Function List

inductive IoType where
  | INPUT | OUTPUT | INOUT | FEEDTHRU
deriving DecidableEq

def IoType.getString : IoType → String
  | .INPUT => "INPUT"
  | .OUTPUT => "OUTPUT"
  | .INOUT => "INOUT"
  | .FEEDTHRU => "FEEDTHRU"

inductive ScanPin where
  | iterm (inst port : String)
  | bterm (name : String)
deriving DecidableEq

def ScanPin.getName : ScanPin → String
  | .iterm inst port => inst ++ "/" ++ port
  | .bterm name => name

structure Terminal where
  ioType : IoType
  net : Option String

/-- Instances and nets with their `dont_touch` flags; `bterms` are the ports on a net, the newest
first. -/
structure StitchBlock where
  insts : String → Option Bool
  nets : String → Option Bool
  terms : ScanPin → Option Terminal
  bterms : String → List String

/-- `undefined` where a null pointer is followed or an element past the end is read. -/
inductive StitchFault where
  | error (code : Nat) (message : String)
  | undefined

abbrev StitchM := Effect StitchBlock StitchFault

namespace StitchBlock

variable (block : StitchBlock)

def getNet (pin : ScanPin) : Option String := (block.terms pin).bind Terminal.net

def dontTouch (net : String) : Bool := block.nets net = some true

/-- The guards of `dbITerm::connect` and `dbBTerm::connect`, and of the disconnect in them. -/
def refusal (pin : ScanPin) (net : String) : Option StitchFault :=
  let old := (block.getNet pin).filter block.dontTouch
  match pin with
  | .iterm inst port =>
    if block.insts inst = some true then
      some (.error 369 s!"Attempt to connect iterm of dont_touch instance {inst}")
    else if block.dontTouch net then
      some (.error 373 s!"Attempt to connect iterm to dont_touch net {net}")
    else old.map fun net =>
      .error 1105 s!"Attempt to disconnect iterm {inst}/{port} of dont_touch net {net}"
  | .bterm _ =>
    if block.dontTouch net then
      some (.error 377 s!"Attempt to connect bterm to dont_touch net {net}")
    else old.map fun net => .error 1106 s!"Attempt to disconnect bterm of dont_touch net {net}"

def moved (pin : ScanPin) (net : String) : StitchBlock :=
  { block with
    terms := update block.terms pin
      ((block.terms pin).map fun terminal => { terminal with net := some net })
    bterms := match pin with
      | .iterm _ _ => block.bterms
      | .bterm name => fun other =>
        if other = net then name :: block.bterms net
        else (block.bterms other).filter fun other => other ≠ name }

end StitchBlock

def connectNet (pin : ScanPin) (net : String) : StitchM Unit := do
  let block ← get
  match block.terms pin with
  | none => throw .undefined
  | some terminal =>
    if terminal.net = some net then pure ()
    else
      match block.refusal pin net with
      | some fault => throw fault
      | none => modify fun block => block.moved pin net

def createNet (name : String) (fault : StitchFault) : StitchM Unit := do
  let block ← get
  check ((block.nets name).isSome = true) fault
  modify fun block =>
    { block with
      nets := update block.nets name (some false)
      bterms := update block.bterms name [] }

/-- `ScanCell::Connect`; connections are preserved for the scan out of a chain only. -/
def connect (load driver : ScanPin) (preserve : Bool) : StitchM Unit := do
  let block ← get
  match block.getNet driver with
  | some driver_net => connectNet load driver_net
  | none =>
    match if preserve then block.getNet load else none with
    | some load_net => connectNet driver load_net
    | none =>
      let name := driver.getName
      createNet name (.error 30 s!"Failed to create driver net named '{name}'")
      connectNet driver name
      connectNet load name

def createNewPort (ioType : IoType) (port_name : String) : StitchM ScanPin := do
  createNet port_name (.error 31 s!"Error while attempting to create new port {port_name}: an unrelated net with the same name already exists")
  let block ← get
  check ((block.terms (.bterm port_name)).isSome = true)
    (.error 18 s!"Failed to create port: a port named '{port_name}' already exists")
  modify fun block =>
    { block with
      terms := update block.terms (.bterm port_name) (some ⟨ioType, some port_name⟩)
      bterms := update block.bterms port_name [port_name] }
  return .bterm port_name

/-- The first slash without a backslash in front of it parts the name. -/
def splitAtSlash (last : Option Char) : List Char → Option (List Char × List Char)
  | [] => none
  | c :: rest =>
    if c = '/' ∧ last ≠ some '\\' then some ([], rest)
    else (splitAtSlash (some c) rest).map fun parts => (c :: parts.1, parts.2)

def splitTermIdentifier (input : String) : Option (String × String) :=
  (splitAtSlash none input.toList).map fun parts => (String.ofList parts.1, String.ofList parts.2)

/-- The pin of an instance, with the code of the first of three errors. -/
def findITerm (kind : String) (ioType : IoType) (code : Nat) (inst port : String) :
    StitchM ScanPin := do
  let block ← get
  check (block.insts inst = none) (.error code s!"Instance {inst} not found for {kind} port")
  match block.terms (.iterm inst port) with
  | none => throw (.error (code + 1) s!"ITerm {inst}/{port} not found for {kind} port")
  | some terminal =>
    let found := terminal.ioType.getString
    check (terminal.ioType ≠ ioType)
      (.error (code + 2) s!"ITerm {inst}/{port} for {kind} port is a {found}")
    return .iterm inst port

def findOrCreateDriver (kind with_name : String) : StitchM ScanPin := do
  match splitTermIdentifier with_name with
  | some (inst, port) => findITerm kind .OUTPUT 34 inst port
  | none =>
    let block ← get
    if (block.terms (.bterm with_name)).isSome then return .bterm with_name
    else createNewPort .INPUT with_name

/-- A port on the net of the last cell is taken if it is an output. -/
def findOrCreateScanOut (cell_scan_out : ScanPin) (with_name : String) : StitchM ScanPin := do
  match splitTermIdentifier with_name with
  | some (inst, port) => findITerm "scan-out" .INPUT 37 inst port
  | none =>
    let block ← get
    match block.terms (.bterm with_name) with
    | some terminal =>
      -- the message of the source names the other kind of port
      check (terminal.ioType ≠ .OUTPUT) (.error 40
        s!"Top-level pin '{with_name}' specified as scan-enable is not an output port")
      return .bterm with_name
    | none =>
      let ports := ((block.getNet cell_scan_out).map block.bterms).getD []
      match ports.find? fun port =>
          (block.terms (.bterm port)).any fun terminal => terminal.ioType = .OUTPUT with
      | some port => return .bterm port
      | none => createNewPort .OUTPUT with_name

/-- A `OneBitScanCell`: its instance and the ports of its test cell. -/
structure OneBitScanCell where
  inst : String
  scanEnable : String
  scanIn : String
  scanOut : String
deriving DecidableEq

namespace OneBitScanCell

variable (cell : OneBitScanCell)

def getScanEnable : ScanPin := .iterm cell.inst cell.scanEnable

def getScanIn : ScanPin := .iterm cell.inst cell.scanIn

def getScanOut : ScanPin := .iterm cell.inst cell.scanOut

def connectScanEnable (driver : ScanPin) : StitchM Unit := connect cell.getScanEnable driver false

def connectScanIn (driver : ScanPin) : StitchM Unit := connect cell.getScanIn driver false

def connectScanOut (load : ScanPin) : StitchM Unit := connect load cell.getScanOut true

end OneBitScanCell

structure ChainPorts where
  scan_enable : ScanPin
  scan_in : ScanPin
  scan_out : ScanPin

def linkCells : List OneBitScanCell → StitchM Unit
  | [] => pure ()
  | [_] => throw .undefined
  | current :: next :: rest => do
    next.connectScanIn current.getScanOut
    linkCells (next :: rest)

def connectSecond (first_scan_cell last_scan_cell : OneBitScanCell) :
    List OneBitScanCell → StitchM Unit
  | cell :: _ => cell.connectScanIn first_scan_cell.getScanOut
  | [] =>
    if last_scan_cell ≠ first_scan_cell then
      last_scan_cell.connectScanIn first_scan_cell.getScanOut
    else pure ()

def stitchChain (scan_enable_name scan_in_name scan_out_name : String)
    (cells : List OneBitScanCell) : StitchM ChainPorts := do
  let scan_enable_driver ← findOrCreateDriver "scan-enable" scan_enable_name
  let scan_in_driver ← findOrCreateDriver "scan-in" scan_in_name
  forM cells fun cell => cell.connectScanEnable scan_enable_driver
  match cells.head?, cells.getLast? with
  | some first_scan_cell, some last_scan_cell =>
    let scan_cells := cells.tail.dropLast
    linkCells scan_cells
    first_scan_cell.connectScanEnable scan_enable_driver
    first_scan_cell.connectScanIn scan_in_driver
    connectSecond first_scan_cell last_scan_cell scan_cells
    let scan_out_load ← findOrCreateScanOut last_scan_cell.getScanOut scan_out_name
    last_scan_cell.connectScanOut scan_out_load
    return ⟨scan_enable_driver, scan_in_driver, scan_out_load⟩
  | _, _ => throw .undefined

open StitchBlock

variable {block block' : StitchBlock} {pin load driver : ScanPin} {net name : String}

lemma connectNet_ok (done : (connectNet pin net).exec block = (.ok (), block')) :
    block'.getNet pin = some net ∧ ∀ other ≠ pin, block'.getNet other = block.getNet other := by
  rw [connectNet, exec_bind_ok _ (exec_get block)] at done
  cases isTerm : block.terms pin with
  | none =>
    rw [isTerm] at done
    cases done
  | some terminal =>
    simp only [isTerm] at done
    split at done
    · rename_i same
      cases done
      exact ⟨by rw [getNet, isTerm]; exact same, fun _ _ => rfl⟩
    · cases isFault : block.refusal pin net with
      | some fault =>
        rw [isFault] at done
        cases done
      | none =>
        rw [isFault] at done
        cases done
        constructor
        · simp only [getNet, moved, update_self, isTerm]
          rfl
        · intro other apart
          simp only [getNet, moved, update_of_ne apart]

lemma check_ok {bad : Prop} [Decidable bad] {fault : StitchFault} {value : Unit}
    (done : (check bad fault : StitchM Unit).exec block = (.ok value, block')) :
    ¬ bad ∧ block' = block := by
  rw [check] at done
  split at done
  · cases done
  · rename_i fails
    cases done
    exact ⟨fails, rfl⟩

lemma createNet_ok {fault : StitchFault}
    (done : (createNet name fault).exec block = (.ok (), block')) :
    block'.terms = block.terms := by
  rw [createNet, exec_bind_ok _ (exec_get block)] at done
  rcases bind_ok done with ⟨_, mid, checked, done⟩
  rw [(check_ok checked).2] at done
  cases done
  rfl

/-- Both pins are on one net then, and other pins stay on the nets they are on. -/
lemma connect_ok {preserve : Bool}
    (done : (connect load driver preserve).exec block = (.ok (), block')) :
    (∃ net, block'.getNet load = some net ∧ block'.getNet driver = some net) ∧
      ∀ other ≠ load, (block.getNet other).isSome → block'.getNet other = block.getNet other := by
  rw [connect, exec_bind_ok _ (exec_get block)] at done
  cases isDriver : block.getNet driver with
  | some driver_net =>
    rw [isDriver] at done
    have joined := connectNet_ok done
    refine ⟨⟨driver_net, joined.1, ?_⟩, fun other apart _ => joined.2 other apart⟩
    by_cases same : driver = load
    · rw [same]
      exact joined.1
    · rw [joined.2 driver same, isDriver]
  | none =>
    rw [isDriver] at done
    have unset : ∀ {other}, (block.getNet other).isSome → other ≠ driver := by
      intro other isSome same
      rw [same, isDriver] at isSome
      cases isSome
    cases isLoad : if preserve then block.getNet load else none with
    | some load_net =>
      simp only [isLoad] at done
      have joined := connectNet_ok done
      have onNet : block.getNet load = some load_net := by
        split at isLoad
        · exact isLoad
        · cases isLoad
      refine ⟨⟨load_net, ?_, joined.1⟩, fun other _ isSome => joined.2 other (unset isSome)⟩
      rw [joined.2 load (unset (by rw [onNet]; rfl)), onNet]
    | none =>
      simp only [isLoad] at done
      rcases bind_ok done with ⟨_, made, create, done⟩
      rcases bind_ok done with ⟨_, driven, first, second⟩
      have first := connectNet_ok first
      have second := connectNet_ok second
      have same : made.getNet = block.getNet := by
        funext other
        rw [getNet, getNet, createNet_ok create]
      refine ⟨⟨_, second.1, ?_⟩, fun other apart isSome => ?_⟩
      · by_cases isSame : driver = load
        · exact isSame ▸ second.1
        · rw [second.2 driver isSame, first.1]
      · rw [second.2 other apart, first.2 other (unset isSome), same]

/-- Loads are no drivers, and each has one driver. -/
structure Separate (links : List (ScanPin × ScanPin)) : Prop where
  apart : ∀ link ∈ links, ∀ other ∈ links, link.1 ≠ other.2
  single : ∀ link ∈ links, ∀ other ∈ links, link.1 = other.1 → link.2 = other.2

/-- Each load is on a net with its driver. -/
def StitchBlock.Joined (block : StitchBlock) (links : List (ScanPin × ScanPin)) : Prop :=
  ∀ link ∈ links, ∃ net, block.getNet link.1 = some net ∧ block.getNet link.2 = some net

variable {all links : List (ScanPin × ScanPin)}

lemma connect_joined (separate : Separate all) (member : (load, driver) ∈ all) {preserve : Bool}
    (done : (connect load driver preserve).exec block = (.ok (), block'))
    (known : links ⊆ all) (joined : block.Joined links) :
    (load, driver) :: links ⊆ all ∧ block'.Joined ((load, driver) :: links) := by
  rcases connect_ok done with ⟨both, stay⟩
  refine ⟨cons_subset.mpr ⟨member, known⟩, fun link isLink => ?_⟩
  rcases mem_cons.mp isLink with rfl | before
  · exact both
  · rcases joined link before with ⟨net, onLoad, onDriver⟩
    have driverStays : block'.getNet link.2 = some net := by
      rw [stay _ (separate.apart _ member _ (known before)).symm (by rw [onDriver]; rfl), onDriver]
    by_cases same : link.1 = load
    · have sameDriver := separate.single _ (known before) _ member same
      rcases both with ⟨new, isLoad, isDriver⟩
      exact ⟨new, same ▸ isLoad, sameDriver ▸ isDriver⟩
    · exact ⟨net, by rw [stay _ same (by rw [onLoad]; rfl), onLoad], driverStays⟩

/-- The pins that are on a net stay on it. -/
def Kept (block block' : StitchBlock) : Prop :=
  ∀ pin, (block.getNet pin).isSome → block'.getNet pin = block.getNet pin

lemma createNewPort_kept {ioType : IoType}
    (done : (createNewPort ioType name).exec block = (.ok pin, block')) : Kept block block' := by
  rcases bind_ok done with ⟨_, made, create, done⟩
  rw [exec_bind_ok _ (exec_get made)] at done
  rcases bind_ok done with ⟨_, mid, checked, done⟩
  rw [(check_ok checked).2] at done
  cases done
  intro other isSome
  have apart : other ≠ .bterm name := by
    intro same
    have there := (check_ok checked).1
    rw [createNet_ok create, ← same] at there
    rw [getNet, Option.not_isSome_iff_eq_none.mp there] at isSome
    cases isSome
  rw [getNet, getNet]
  simp only [update_of_ne apart, createNet_ok create]

lemma findITerm_keeps {kind inst port : String} {ioType : IoType} {code : Nat} :
    Keeps id (findITerm kind ioType code inst port) := by
  refine keeps_bind keeps_get fun block => keeps_bind (keeps_check _ _) fun _ => ?_
  split
  · exact keeps_throw _
  · exact keeps_bind (keeps_check _ _) fun _ => keeps_pure _

lemma kept_of_keeps {m : StitchM ScanPin} (keeps : Keeps id m)
    (done : m.exec block = (.ok pin, block')) : Kept block block' := by
  have same := keeps block
  rw [done] at same
  rw [show block' = block from same]
  exact fun _ _ => rfl

lemma findOrCreateScanOut_kept
    (done : (findOrCreateScanOut driver name).exec block = (.ok pin, block')) :
    Kept block block' := by
  rw [findOrCreateScanOut] at done
  split at done
  · exact kept_of_keeps findITerm_keeps done
  · rw [exec_bind_ok _ (exec_get block)] at done
    split at done
    · exact kept_of_keeps (keeps_bind (keeps_check _ _) fun _ => keeps_pure _) done
    · dsimp only at done
      split at done
      · exact kept_of_keeps (keeps_pure _) done
      · exact createNewPort_kept done

lemma Kept.joined (kept : Kept block block') (joined : block.Joined links) :
    block'.Joined links := by
  intro link isLink
  rcases joined link isLink with ⟨net, onLoad, onDriver⟩
  exact ⟨net, by rw [kept _ (by rw [onLoad]; rfl), onLoad],
    by rw [kept _ (by rw [onDriver]; rfl), onDriver]⟩

lemma linkCells_fails {cells : List OneBitScanCell} (some' : cells ≠ []) {value : Unit}
    (done : (linkCells cells).exec block = (.ok value, block')) : False := by
  induction cells generalizing block with
  | nil => exact some' rfl
  | cons current rest ih =>
    cases rest with
    | nil => cases done
    | cons next rest =>
      rcases bind_ok done with ⟨_, mid, _, done⟩
      exact ih (cons_ne_nil _ _) done

/-- Each load of a chain with its driver. -/
def chainLinks (cells : List OneBitScanCell) (ports : ChainPorts) : List (ScanPin × ScanPin) :=
  (cells.map fun cell => (cell.getScanEnable, ports.scan_enable)) ++
    (cells.head?.map fun first => (first.getScanIn, ports.scan_in)).toList ++
    zipWith (fun cell next => (next.getScanIn, cell.getScanOut)) cells cells.tail ++
    (cells.getLast?.map fun last => (ports.scan_out, last.getScanOut)).toList

/-- A chain that is stitched without a fault has at most two cells, and each of its loads is on the
net of its driver. -/
theorem stitchChain_joined {enable_name in_name out_name : String} {cells : List OneBitScanCell}
    {ports : ChainPorts} (nodup : cells.Nodup) (separate : Separate (chainLinks cells ports))
    (done : (stitchChain enable_name in_name out_name cells).exec block = (.ok ports, block')) :
    cells.length ≤ 2 ∧ block'.Joined (chainLinks cells ports) := by
  rcases bind_ok done with ⟨enable, _, _, done⟩
  rcases bind_ok done with ⟨input, _, _, done⟩
  rcases bind_ok done with ⟨_, _, enabled, done⟩
  cases cells with
  | nil => cases done
  | cons first rest =>
    rcases bind_ok done with ⟨_, _, linked, done⟩
    rcases bind_ok done with ⟨_, _, enabledAgain, done⟩
    rcases bind_ok done with ⟨_, _, fed, done⟩
    rcases bind_ok done with ⟨_, _, joinedSecond, done⟩
    rcases bind_ok done with ⟨load, _, found, done⟩
    rcases bind_ok done with ⟨_, _, loaded, done⟩
    cases done
    rw [List.forM_cons] at enabled
    rcases bind_ok enabled with ⟨_, _, enabled, others⟩
    have start := connect_joined separate (by simp [chainLinks]) enabled (nil_subset _)
      fun link member => absurd member not_mem_nil
    cases rest with
    | nil =>
      cases others
      cases linked
      have again := connect_joined separate (by simp [chainLinks]) enabledAgain start.1 start.2
      have joined := connect_joined separate (by simp [chainLinks]) fed again.1 again.2
      change (connectSecond first first []).exec _ = _ at joinedSecond
      rw [connectSecond, if_neg (not_not.mpr rfl)] at joinedSecond
      cases joinedSecond
      have last := connect_joined separate (by simp [chainLinks]) loaded joined.1
        ((findOrCreateScanOut_kept found).joined joined.2)
      refine ⟨by simp, fun link isLink => last.2 link (subset_def.mp ?_ isLink)⟩
      simp [chainLinks]
    | cons second rest =>
      cases rest with
      | nil =>
        rw [List.forM_cons] at others
        rcases bind_ok others with ⟨_, _, enabled, others⟩
        cases others
        cases linked
        have both := connect_joined separate (by simp [chainLinks]) enabled start.1 start.2
        have again := connect_joined separate (by simp [chainLinks]) enabledAgain both.1 both.2
        have joined := connect_joined separate (by simp [chainLinks]) fed again.1 again.2
        have differ : second ≠ first := by
          intro same
          simp [same] at nodup
        change (connectSecond first second []).exec _ = _ at joinedSecond
        rw [connectSecond, if_pos differ] at joinedSecond
        have next := connect_joined separate (by simp [chainLinks]) joinedSecond joined.1 joined.2
        have last := connect_joined separate (by simp [chainLinks]) loaded next.1
          ((findOrCreateScanOut_kept found).joined next.2)
        refine ⟨by simp, fun link isLink => last.2 link (subset_def.mp ?_ isLink)⟩
        simp [chainLinks]
      | cons third rest => exact (linkCells_fails (by simp) linked).elim

/-- Two flip-flops without nets. -/
def unstitchedFlops : StitchBlock where
  insts := fun inst => if inst ∈ ["a", "b"] then some false else none
  nets := fun _ => none
  terms := fun pin =>
    match pin with
    | .iterm inst port =>
      if inst ∈ ["a", "b"] then some ⟨if port = "Q" then .OUTPUT else .INPUT, none⟩ else none
    | .bterm _ => none
  bterms := fun _ => []

example : ((stitchChain "en" "in" "out" [⟨"a", "SE", "SI", "Q"⟩, ⟨"b", "SE", "SI", "Q"⟩]).exec
    unstitchedFlops).2.getNet (.iterm "b" "SI") = some "a/Q" := by
  decide

end OpenRoad.Dft
