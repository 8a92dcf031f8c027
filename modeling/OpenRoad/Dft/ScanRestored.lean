import Mathlib.Data.List.Induction
import OpenRoad.Dft.ScanRollback

/-! Which designs are put back as they were. -/

namespace OpenRoad.Dft

open OpenRoad.Lib List Function Option

variable {db : Db} {sta : Sta} {masters : List Nat} {start now : Design} {visits : List InstKey}
  {s s' : ReplaceState} {inst : Inst} {k : InstKey}

def Keyed (design : Design) : Prop := ∀ k inst, design k = some inst → inst.key = k

lemma Keyed.run {f : Inst → Option Inst} (keyed : Keyed start)
    (keeps : ∀ a b, f a = some b → b.key = a.key) (run : Visited f visits start now) :
    Keyed now := by
  intro k a present
  rcases run.origin present with ⟨a₀, isStart, ⟨rfl, _⟩ | ⟨becomes, _⟩⟩
  · exact keyed k a isStart
  · rw [keeps a₀ a becomes, keyed k a₀ isStart]

/-- A way back leads to a master that was replaced. -/
def Noted (db : Db) (sta : Sta) (masters : List Nat) (start : Design)
    (rollbackCandidates : RollbackCandidates) : Prop :=
  ∀ master candidate, rollbackCandidates.lookup master = some candidate →
    ∃ k inst scanCandidate, start k = some inst ∧
      scanCandidateOf db sta masters inst = some scanCandidate ∧
      sta.staToDb scanCandidate.scanCell = master ∧
      candidate = ⟨inst.master, flipPorts sta scanCandidate.portMapping⟩

structure Scanned (db : Db) (sta : Sta) (masters : List Nat) (visits : List InstKey)
    (start : Design) (s : ReplaceState) : Prop where
  run : Visited (scanned db sta masters start) visits start s.design
  replaced : ∀ k inst, start k = some inst →
    (k ∈ s.alreadyReplaced ↔ k ∈ visits ∧ (scanMasterOf db sta masters inst).isSome)
  known : ∀ k ∈ s.alreadyReplaced, k ∈ visits
  noted : Noted db sta masters start s.rollbackCandidates
  kept : ∀ k ∈ visits, ∀ inst master, start k = some inst →
    scanMasterOf db sta masters inst = some master → (s.rollbackCandidates.lookup master).isSome

lemma lookup_addCellForRollback (sta : Sta) (master masterScanCell : Nat)
    (scanCandidate : ScanCandidate) (rollbackCandidates : RollbackCandidates) (m : Nat) :
    (addCellForRollback sta master masterScanCell scanCandidate rollbackCandidates).lookup m =
      (rollbackCandidates.lookup m).or (if m = masterScanCell then
        some ⟨master, flipPorts sta scanCandidate.portMapping⟩ else none) := by
  rw [addCellForRollback]
  by_cases isKey : m = masterScanCell
  · subst isKey
    split
    · rename_i there
      rcases isSome_iff_exists.mp there with ⟨old, isOld⟩
      rw [isOld, some_or]
    · rw [List.lookup_append, if_pos rfl, lookup_cons_self]
  · rw [if_neg isKey, or_none]
    split
    · rfl
    · rw [List.lookup_append, lookup_cons, beq_eq_false_iff_ne.mpr isKey, lookup_nil,
        or_none]

lemma Scanned.nil (db : Db) (sta : Sta) (masters : List Nat) (start : Design) :
    Scanned db sta masters [] start ⟨start, [], []⟩ where
  run := Visited.nil _ _
  replaced _ _ _ := iff_of_false not_mem_nil fun met => not_mem_nil met.1
  known _ member := absurd member not_mem_nil
  noted _ _ found := absurd found (by simp)
  kept _ met := absurd met not_mem_nil

section

variable (before : Scanned db sta masters visits start s)
include before

lemma Scanned.pass (run : Visited (scanned db sta masters start) (visits ++ [k]) start s.design)
    (skipped : k ∈ visits ∨ ∀ inst, start k = some inst → scanMasterOf db sta masters inst = none) :
    Scanned db sta masters (visits ++ [k]) start s where
  run := run
  replaced x inst isStart := by
    rw [before.replaced x inst isStart, mem_append, mem_singleton]
    constructor
    · exact fun met => ⟨.inl met.1, met.2⟩
    · rintro ⟨met | rfl, isReplaced⟩
      · exact ⟨met, isReplaced⟩
      · rcases skipped with met | not
        · exact ⟨met, isReplaced⟩
        · rw [not inst isStart] at isReplaced
          exact absurd isReplaced (by simp)
  known x member := mem_append_left _ (before.known x member)
  noted := before.noted
  kept x met inst master isStart isMaster := by
    rcases mem_append.mp met with earlier | last
    · exact before.kept x earlier inst master isStart isMaster
    · rw [mem_singleton.mp last] at isStart
      rcases skipped with earlier | not
      · exact before.kept k earlier inst master isStart isMaster
      · rw [not inst isStart] at isMaster
        exact absurd isMaster (by simp)

lemma Scanned.first (present : s.design k = some inst) (fresh : k ∉ s.alreadyReplaced) :
    start k = some inst := by
  rcases before.run.origin present with ⟨a₀, isStart, ⟨rfl, _⟩ | ⟨becomes, met⟩⟩
  · exact isStart
  · have notReplaced : scanCandidateOf db sta masters a₀ = none := by
      have not := fun isReplaced => fresh ((before.replaced k a₀ isStart).mpr ⟨met, isReplaced⟩)
      simpa [scanMasterOf] using not
    rw [scanned, notReplaced] at becomes
    rw [isStart, some_injective _ becomes]

lemma Scanned.replace {candidate : ScanCandidate} {new : Inst} (isStart : start k = some inst)
    (present : s.design k = some inst) (fresh : k ∉ s.alreadyReplaced)
    (found : scanCandidateOf db sta masters inst = some candidate)
    (becomes : scanned db sta masters start inst = some new) :
    Scanned db sta masters (visits ++ [k]) start
      { design := update s.design k (some new)
        alreadyReplaced := k :: s.alreadyReplaced
        rollbackCandidates := addCellForRollback sta inst.master (sta.staToDb candidate.scanCell)
          candidate s.rollbackCandidates } where
  run := before.run.change scanned_once present becomes
  replaced x a isX := by
    rw [mem_cons, mem_append, mem_singleton, before.replaced x a isX]
    constructor
    · rintro (rfl | ⟨met, isReplaced⟩)
      · rw [isStart] at isX
        rw [← some_injective _ isX, scanMasterOf, found]
        exact ⟨.inr rfl, rfl⟩
      · exact ⟨.inl met, isReplaced⟩
    · rintro ⟨met | rfl, isReplaced⟩
      · exact .inr ⟨met, isReplaced⟩
      · exact .inl rfl
  known x member := by
    rcases mem_cons.mp member with rfl | earlier
    · exact mem_append_right _ (mem_singleton_self _)
    · exact mem_append_left _ (before.known x earlier)
  noted master rollback isRollback := by
    dsimp only at isRollback
    rw [lookup_addCellForRollback, or_eq_some_iff] at isRollback
    rcases isRollback with old | ⟨_, new'⟩
    · exact before.noted master rollback old
    · split at new'
      · rename_i isMaster
        exact ⟨k, inst, candidate, isStart, found, isMaster.symm,
          (some_injective _ new').symm⟩
      · exact absurd new' (by simp)
  kept x met a master isX isMaster := by
    dsimp only
    rw [lookup_addCellForRollback, isSome_or, Bool.or_eq_true]
    rcases mem_append.mp met with earlier | last
    · exact .inl (before.kept x earlier a master isX isMaster)
    · rw [mem_singleton.mp last, isStart] at isX
      rw [← some_injective _ isX, scanMasterOf, found, map_some] at isMaster
      rw [if_pos (some_injective _ isMaster).symm]
      exact .inr rfl

omit before in
lemma scanReplaceInst_scanned (keyed : Keyed start)
    (before : Scanned db sta masters visits start s)
    (step : scanReplaceInst db sta masters s k = some s') :
    Scanned db sta masters (visits ++ [k]) start s' := by
  rw [scanReplaceInst] at step
  cases present : s.design k with
  | none =>
    rw [present] at step
    rw [← some_injective _ step]
    refine before.pass (before.run.pass present) (.inr fun inst isStart => ?_)
    rw [(before.run.none_iff k).mp present] at isStart
    exact absurd isStart (by simp)
  | some inst =>
    rw [present] at step
    dsimp only at step
    split at step
    · rename_i member
      have met := before.known k member
      rw [← some_injective _ step]
      exact before.pass (before.run.again met) (.inl met)
    · rename_i fresh
      have isStart := before.first present fresh
      cases found : scanCandidateOf db sta masters inst with
      | none =>
        rw [found] at step
        rw [← some_injective _ step]
        have stays : scanned db sta masters start inst = some inst := by rw [scanned, found]
        refine before.pass (before.run.stay scanned_once present stays) (.inr fun a isA => ?_)
        rw [isStart] at isA
        rw [← some_injective _ isA, scanMasterOf, found, map_none]
      | some candidate =>
        rw [found] at step
        dsimp only at step
        rw [bind_eq_bind, bind_eq_some_iff] at step
        rcases step with ⟨design, replaces, isState⟩
        rw [Db.replaceCell_eq, map_eq_some_iff] at replaces
        rcases replaces with ⟨new, isNew, rfl⟩
        rw [Db.replaced_congr (before.run.none_iff _)] at isNew
        have becomes : scanned db sta masters start inst = some new := by
          rw [scanned, found]
          exact isNew
        have isKey := keyed k inst isStart
        rw [← some_injective _ isState, isKey]
        exact before.replace isStart present fresh found becomes

lemma scanReplaceInst_isSome
    (succeeds : ∀ inst, start k = some inst → (scanned db sta masters start inst).isSome) :
    ∃ s', scanReplaceInst db sta masters s k = some s' := by
  rw [scanReplaceInst]
  cases present : s.design k with
  | none => exact ⟨s, rfl⟩
  | some inst =>
    dsimp only
    split
    · exact ⟨s, rfl⟩
    · rename_i fresh
      cases found : scanCandidateOf db sta masters inst with
      | none => exact ⟨s, rfl⟩
      | some candidate =>
        have some' := succeeds inst (before.first present fresh)
        rw [scanned, found] at some'
        dsimp only at some'
        rw [← Db.replaced_congr (before.run.none_iff _)] at some'
        rcases isSome_iff_exists.mp some' with ⟨new, isNew⟩
        dsimp only
        rw [Db.replaceCell_eq, isNew]
        exact ⟨_, rfl⟩

end

lemma scanReplace_append (visits : List InstKey) (k : InstKey) :
    scanReplace db sta masters (visits ++ [k]) start =
      (scanReplace db sta masters visits start).bind fun s =>
        scanReplaceInst db sta masters s k := by
  rw [scanReplace, foldlM_append, scanReplace]
  simp

lemma scanReplace_scanned (keyed : Keyed start)
    (ran : scanReplace db sta masters visits start = some s) :
    Scanned db sta masters visits start s := by
  induction visits using reverseRecOn generalizing s with
  | nil =>
    rw [← some_injective _ ran]
    exact Scanned.nil db sta masters start
  | append_singleton visits k ih =>
    rw [scanReplace_append, bind_eq_some_iff] at ran
    rcases ran with ⟨before, ran, step⟩
    exact scanReplaceInst_scanned keyed (ih ran) step

lemma scanReplace_isSome (keyed : Keyed start)
    (succeeds : ∀ k inst, start k = some inst → (scanned db sta masters start inst).isSome)
    (visits : List InstKey) : ∃ s, scanReplace db sta masters visits start = some s := by
  induction visits using reverseRecOn with
  | nil => exact ⟨_, rfl⟩
  | append_singleton visits k ih =>
    rcases ih with ⟨s, ran⟩
    rw [scanReplace_append, ran, bind_some]
    exact scanReplaceInst_isSome (scanReplace_scanned keyed ran) (succeeds k)

/-- What the second pass makes of an instance. -/
def rolledBack (db : Db) (rollbackCandidates : RollbackCandidates) (design : Design)
    (inst : Inst) : Option Inst :=
  match rollbackCandidates.lookup inst.master with
  | none => some inst
  | some candidate => db.replaced design inst candidate.master candidate.portMapping

variable {rollbackCandidates : RollbackCandidates} {out : Design}

lemma rolledBack_key {back : Inst}
    (becomes : rolledBack db rollbackCandidates start inst = some back) : back.key = inst.key := by
  rw [rolledBack] at becomes
  split at becomes
  · rw [some_injective _ becomes]
  · rcases Db.replaced_some.mp becomes with ⟨_, rfl⟩
    rfl

lemma rolledBack_once {design : Design} (noted : Noted db sta masters design rollbackCandidates) :
    ChangesOnce (rolledBack db rollbackCandidates start) := by
  intro a b becomes
  rw [rolledBack] at becomes
  cases found : rollbackCandidates.lookup a.master with
  | none =>
    rw [found] at becomes
    rw [← some_injective _ becomes, rolledBack, found]
  | some candidate =>
    rw [found] at becomes
    rcases Db.replaced_some.mp becomes with ⟨_, rfl⟩
    rw [rolledBack]
    cases again : rollbackCandidates.lookup (db.replacement a _ _).master with
    | none => rfl
    | some candidate' =>
      rcases noted _ _ found with ⟨_, inst, scan, _, isScan, _, isMaster⟩
      rcases noted _ _ again with ⟨_, inst', scan', _, isScan', same, _⟩
      rw [isMaster] at same
      have differs := scan_ne_master isScan' isScan
      exact absurd same differs

lemma rollbackScanReplace_append (visits : List InstKey) (k : InstKey) :
    rollbackScanReplace db rollbackCandidates (visits ++ [k]) start =
      (rollbackScanReplace db rollbackCandidates visits start).bind fun design =>
        rollbackInst db rollbackCandidates design k := by
  rw [rollbackScanReplace, foldlM_append, rollbackScanReplace]
  simp

lemma rollbackInst_eq (keyed : Keyed start)
    (run : Visited (rolledBack db rollbackCandidates start) visits start now) (k : InstKey) :
    rollbackInst db rollbackCandidates now k =
      match now k with
      | none => some now
      | some inst => (rolledBack db rollbackCandidates start inst).map fun back =>
        update now k (some back) := by
  rw [rollbackInst]
  cases present : now k with
  | none => rfl
  | some inst =>
    have isKey := keyed.run (fun _ _ => rolledBack_key) run k inst present
    dsimp only
    rw [rolledBack]
    cases found : rollbackCandidates.lookup inst.master with
    | none => rw [map_some, ← present, update_eq_self]
    | some candidate =>
      dsimp only
      rw [Db.replaceCell_eq, Db.replaced_congr (run.none_iff _), isKey]

lemma rollbackScanReplace_visited (keyed : Keyed start) {design : Design}
    (noted : Noted db sta masters design rollbackCandidates)
    (ran : rollbackScanReplace db rollbackCandidates visits start = some out) :
    Visited (rolledBack db rollbackCandidates start) visits start out := by
  induction visits using reverseRecOn generalizing out with
  | nil =>
    rw [← some_injective _ ran]
    exact Visited.nil _ _
  | append_singleton visits k ih =>
    rw [rollbackScanReplace_append, bind_eq_some_iff] at ran
    rcases ran with ⟨now, ran, step⟩
    have run := ih ran
    rw [rollbackInst_eq keyed run] at step
    cases present : now k with
    | none =>
      rw [present] at step
      rw [← some_injective _ step]
      exact run.pass present
    | some inst =>
      rw [present] at step
      dsimp only at step
      rcases map_eq_some_iff.mp step with ⟨back, becomes, isOut⟩
      rw [← isOut]
      exact run.change (rolledBack_once noted) present becomes

lemma rollbackScanReplace_isSome (keyed : Keyed start) {design : Design}
    (noted : Noted db sta masters design rollbackCandidates)
    (succeeds : ∀ k inst, start k = some inst →
      (rolledBack db rollbackCandidates start inst).isSome)
    (visits : List InstKey) :
    ∃ out, rollbackScanReplace db rollbackCandidates visits start = some out := by
  induction visits using reverseRecOn with
  | nil => exact ⟨_, rfl⟩
  | append_singleton visits k ih =>
    rcases ih with ⟨now, ran⟩
    have run := rollbackScanReplace_visited keyed noted ran
    rw [rollbackScanReplace_append, ran, bind_some, rollbackInst_eq keyed run]
    cases present : now k with
    | none => exact ⟨now, rfl⟩
    | some inst =>
      have some' : (rolledBack db rollbackCandidates start inst).isSome := by
        rcases run.origin present with ⟨a, isStart, ⟨rfl, _⟩ | ⟨becomes, _⟩⟩
        · exact succeeds k _ isStart
        · rw [rolledBack_once noted _ _ becomes, isSome_some]
      rcases isSome_iff_exists.mp some' with ⟨back, becomes⟩
      dsimp only
      rw [becomes]
      exact ⟨_, rfl⟩

end OpenRoad.Dft
