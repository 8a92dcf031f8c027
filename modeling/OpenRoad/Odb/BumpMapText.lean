import OpenRoad.Odb.BumpMap

/-! What the parser makes of the lines that the writer writes. -/

namespace OpenRoad.Odb

open OpenRoad.Lib OpenRoad.Lib.Effect OpenRoad.Lib.Words List

/-- The bumps are in the block with their ports and nets, and their names have no white space. -/
structure Holds (block : BumpBlock) (bumps : List ChipBump) : Prop where
  insts : ∀ bump ∈ bumps, ∃ inst, block.insts bump.inst = some inst ∧ NoSpace inst.master.name
  names : ∀ bump ∈ bumps, NoSpace bump.inst
  bterms : ∀ bump ∈ bumps, ∀ port, bump.bterm = some port →
    NoSpace port ∧ (block.bterms port).isSome
  nets : ∀ bump ∈ bumps, ∀ net, bump.net = some net → NoSpace net ∧ (block.nets net).isSome

def entryOf (chip : BumpChip) (bump : ChipBump) (inst : BumpInst) : BumpMapEntry where
  bump_inst_name := bump.inst
  bump_cell_type := inst.master.name
  x := (writtenCoordinate chip.dbu_per_micron inst.x : Nat)
  y := (writtenCoordinate chip.dbu_per_micron inst.y : Nat)
  port_name := nameOrDash bump.bterm
  net_name := nameOrDash bump.net

def IsEntry (chip : BumpChip) (block : BumpBlock) (bump : ChipBump) (entry : BumpMapEntry) : Prop :=
  ∃ inst, block.insts bump.inst = some inst ∧ entry = entryOf chip bump inst

def keptBump (bump : ChipBump) : Bool := bump.inst.head? ≠ some '#'

def Named (bump : ChipBump) (inst : BumpInst) : Prop :=
  bump.inst ≠ [] ∧ inst.master.name ≠ [] ∧ nameOrDash bump.bterm ≠ [] ∧ nameOrDash bump.net ≠ []

variable {chip : BumpChip} {block : BumpBlock} {bump : ChipBump} {inst : BumpInst}

lemma noSpace_nameOrDash {name : Option Text} (noSpace : ∀ text, name = some text → NoSpace text) :
    NoSpace (nameOrDash name) := by
  cases name with
  | none =>
    intro c member
    rw [mem_singleton.mp member]
    rfl
  | some text => exact noSpace text rfl

lemma parse_length {line : Text} (other : (words line).length ≠ 6) :
    parseBumpMapLine line = .error (.error 536) := by
  unfold parseBumpMapLine
  split
  · rename_i shape
    rw [shape] at other
    exact absurd rfl other
  · rfl

def fieldsOf (chip : BumpChip) (bump : ChipBump) (inst : BumpInst) : List Text :=
  [bump.inst, inst.master.name, Nat.toDigits 10 (writtenCoordinate chip.dbu_per_micron inst.x),
    Nat.toDigits 10 (writtenCoordinate chip.dbu_per_micron inst.y),
    nameOrDash bump.bterm, nameOrDash bump.net]

section Line

variable (noSpace : ∀ field ∈ fieldsOf chip bump inst, NoSpace field)

include noSpace

lemma parse_named (named : Named bump inst) :
    parseBumpMapLine (writeLine chip bump inst) = .ok (entryOf chip bump inst) := by
  have isWords : words (writeLine chip bump inst) = fieldsOf chip bump inst := by
    refine (words_joined noSpace).trans (filter_eq_self.mpr ?_)
    intro field member
    simp only [fieldsOf, mem_cons, not_mem_nil, or_false] at member
    apply decide_eq_true
    rcases member with rfl | rfl | rfl | rfl | rfl | rfl
    · exact named.1
    · exact named.2.1
    · exact Nat.toDigits_ne_nil
    · exact Nat.toDigits_ne_nil
    · exact named.2.2.1
    · exact named.2.2.2
  rw [parseBumpMapLine, isWords]
  simp only [fieldsOf, stodDecimal_digits, entryOf]

lemma parse_unnamed (unnamed : ¬ Named bump inst) :
    parseBumpMapLine (writeLine chip bump inst) = .error (.error 536) := by
  apply parse_length
  have isWords := words_joined noSpace
  intro six
  apply unnamed
  have all : (fieldsOf chip bump inst).filter (· ≠ []) = fieldsOf chip bump inst := by
    apply filter_sublist.eq_of_length
    exact (congrArg length isWords).symm.trans six
  have each := filter_eq_self.mp all
  refine ⟨?_, ?_, ?_, ?_⟩
  all_goals
    refine of_decide_eq_true (each _ ?_)
    simp [fieldsOf]

end Line

variable {bumps : List ChipBump}

lemma fields_noSpace (holds : Holds block bumps) (member : bump ∈ bumps)
    (isInst : block.insts bump.inst = some inst) :
    ∀ field ∈ fieldsOf chip bump inst, NoSpace field := by
  rcases holds.insts bump member with ⟨found, isFound, cell⟩
  rw [isInst] at isFound
  rw [← Option.some.inj isFound] at cell
  intro field isField
  simp only [fieldsOf, mem_cons, not_mem_nil, or_false] at isField
  rcases isField with rfl | rfl | rfl | rfl | rfl | rfl
  · exact holds.names bump member
  · exact cell
  · exact noSpace_digits _
  · exact noSpace_digits _
  · exact noSpace_nameOrDash fun port isPort => (holds.bterms bump member port isPort).1
  · exact noSpace_nameOrDash fun net isNet => (holds.nets bump member net isNet).1

lemma writeLine_head (chip : BumpChip) (bump : ChipBump) (inst : BumpInst) :
    writeLine chip bump inst ≠ [] ∧
      ((writeLine chip bump inst).head? = some '#' ↔ keptBump bump = false) := by
  rw [writeLine, joined, keptBump]
  cases bump.inst with
  | nil => exact ⟨cons_ne_nil _ _, by simp⟩
  | cons c rest => exact ⟨cons_ne_nil _ _, by simp⟩

/-- What the parser makes of a written file: an entry for each line that is no comment, or an error
for a name that is empty. -/
structure ReadsAs (chip : BumpChip) (block : BumpBlock) (bumps : List ChipBump)
    (result : Except BumpFault (List BumpMapEntry)) : Prop where
  named : (∀ bump ∈ bumps, ∀ inst, keptBump bump → block.insts bump.inst = some inst →
    Named bump inst) → ∃ entries, result = .ok entries
  entries : ∀ entries, result = .ok entries →
    List.Forall₂ (IsEntry chip block) (bumps.filter keptBump) entries ∧
      ∀ bump ∈ bumps, ∀ inst, keptBump bump → block.insts bump.inst = some inst → Named bump inst

lemma parseLines_cons (line : Text) (rest : List Text) : parseLines (line :: rest) =
      if line = [] ∨ line.head? = some '#' then parseLines rest
      else (parseBumpMapLine line).bind fun entry =>
        (parseLines rest).bind fun entries => .ok (entry :: entries) := rfl

lemma Holds.tail (holds : Holds block (bump :: bumps)) :
    Holds block bumps where
  insts other member := holds.insts other (mem_cons_of_mem bump member)
  names other member := holds.names other (mem_cons_of_mem bump member)
  bterms other member := holds.bterms other (mem_cons_of_mem bump member)
  nets other member := holds.nets other (mem_cons_of_mem bump member)

lemma readsAs_comment {result : Except BumpFault (List BumpMapEntry)}
    (comment : keptBump bump = false) (reads : ReadsAs chip block bumps result) :
    ReadsAs chip block (bump :: bumps) result where
  named named := reads.named fun other member => named other (mem_cons_of_mem bump member)
  entries entries isOk := by
    rcases reads.entries entries isOk with ⟨pairs, named⟩
    rw [filter_cons, comment]
    refine ⟨pairs, ?_⟩
    intro other member found kept
    rcases mem_cons.mp member with rfl | member
    · rw [comment] at kept
      cases kept
    · exact named other member found kept

lemma readsAs_line {result : Except BumpFault (List BumpMapEntry)}
    (noSpace : ∀ field ∈ fieldsOf chip bump inst, NoSpace field) (kept : keptBump bump)
    (isInst : block.insts bump.inst = some inst) (reads : ReadsAs chip block bumps result) :
    ReadsAs chip block (bump :: bumps)
      ((parseBumpMapLine (writeLine chip bump inst)).bind fun entry =>
        result.bind fun entries => .ok (entry :: entries)) where
  named named := by
    rcases reads.named fun other member => named other (mem_cons_of_mem bump member) with
      ⟨entries, isOk⟩
    rw [parse_named noSpace (named bump mem_cons_self inst kept isInst), isOk]
    exact ⟨_, rfl⟩
  entries entries isOk := by
    by_cases named : Named bump inst
    · rw [parse_named noSpace named] at isOk
      cases shape : result with
      | error fault =>
        rw [shape] at isOk
        cases isOk
      | ok others =>
        rw [shape] at isOk
        rcases reads.entries others shape with ⟨pairs, namedRest⟩
        rw [← Except.ok.inj isOk, filter_cons, if_pos kept]
        refine ⟨Forall₂.cons ⟨inst, isInst, rfl⟩ pairs, ?_⟩
        intro other member found keptOther isFound
        rcases mem_cons.mp member with rfl | member
        · rw [isInst] at isFound
          exact Option.some.inj isFound ▸ named
        · exact namedRest other member found keptOther isFound
    · rw [parse_unnamed noSpace named] at isOk
      cases isOk

lemma writeFile_reads (holds : Holds block bumps) (dbu : chip.dbu_per_micron ≠ 0) :
    ∃ text, (writeFile chip bumps).exec block = (.ok text, block) ∧
      ReadsAs chip block bumps (parseBumpMapContent text) := by
  induction bumps with
  | nil =>
    refine ⟨[], rfl, fun _ => ⟨[], rfl⟩, ?_⟩
    intro entries isOk
    rw [← Except.ok.inj isOk]
    refine ⟨Forall₂.nil, ?_⟩
    intro bump member
    cases member
  | cons bump rest ih =>
    rcases ih holds.tail with ⟨text, isText, reads⟩
    rcases holds.insts bump mem_cons_self with ⟨inst, isInst, _⟩
    have noSpace : ∀ field ∈ fieldsOf chip bump inst, NoSpace field :=
      fields_noSpace holds mem_cons_self isInst
    refine ⟨writeLine chip bump inst ++ '\n' :: text, ?_, ?_⟩
    · rw [writeFile, exec_bind_ok _ (exec_get block), isInst, required,
        exec_bind_ok _ (exec_pure inst block), check, if_neg dbu,
        exec_bind_ok _ (exec_pure () block), exec_bind_ok _ isText]
      rfl
    · rcases writeLine_head chip bump inst with ⟨nonempty, isComment⟩
      have oneLine : '\n' ∉ writeLine chip bump inst := joined_oneLine noSpace
      rw [parseBumpMapContent, lines_cons oneLine, parseLines_cons]
      by_cases kept : keptBump bump
      · rw [if_neg (by simp [nonempty, isComment, kept])]
        exact readsAs_line noSpace kept isInst reads
      · rw [if_pos (.inr (isComment.mpr (by simpa using kept)))]
        exact readsAs_comment (by simpa using kept) reads

lemma writeFile_zero (some : bumps ≠ []) (dbu : chip.dbu_per_micron = 0) :
    ∃ fault, (writeFile chip bumps).exec block = (.error fault, block) := by
  cases bumps with
  | nil => exact absurd rfl some
  | cons bump rest =>
    rw [writeFile, exec_bind_ok _ (exec_get block)]
    cases block.insts bump.inst with
    | none => exact ⟨_, rfl⟩
    | some inst =>
      rw [required, exec_bind_ok _ (exec_pure inst block), check, if_pos dbu]
      exact ⟨_, rfl⟩

end OpenRoad.Odb
