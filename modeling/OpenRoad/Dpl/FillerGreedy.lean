import OpenRoad.Dpl.FillerPlacement

/-! Which sets of fillers fill every gap that they can fill. -/

namespace OpenRoad.Dpl

open List Option Descends

variable {siteWidth : Nat} {one : Bool} {masters ms taken : List FillerMaster} {m : FillerMaster}
  {left : Nat} {out : Option (List FillerMaster)}

def Fillable (siteWidth : Nat) (masters : List FillerMaster) (gap : Nat) : Prop :=
  ∃ chosen : List FillerMaster, (∀ m ∈ chosen, m ∈ masters) ∧
    (chosen.map FillerMaster.width).sum = gap * siteWidth

def Descending (masters : List FillerMaster) : Prop :=
  masters.Pairwise fun a b => b.width ≤ a.width

/-- The greedy choice is right: what the widest master leaves can be filled if the gap can. -/
structure GreedyFills (siteWidth : Nat) (masters : List FillerMaster) : Prop where
  whole : ∀ before m after, masters = before ++ m :: after → siteWidth ≤ m.width →
    (∀ other ∈ before, other.sites siteWidth ≠ m.sites siteWidth) → siteWidth ∣ m.width
  narrow : ∀ n ∈ masters, n.width < siteWidth → ∀ left, 2 ≤ left → ∃ m ∈ masters,
    2 ≤ m.sites siteWidth ∧ mayPlace siteWidth (haveFiller1 siteWidth masters) left m = true
  greedy : ∀ left, 1 ≤ left → Fillable siteWidth masters left →
    ∃ m, masters.find? (fun m => 1 ≤ m.sites siteWidth ∧
      mayPlace siteWidth (haveFiller1 siteWidth masters) left m = true) = some m ∧
        Fillable siteWidth masters (left - m.sites siteWidth)

section Masters

variable (positive : 0 < siteWidth) (descending : Descending masters)

lemma sites_mono {a b : FillerMaster} (le : b.width ≤ a.width) :
    b.sites siteWidth ≤ a.sites siteWidth := Nat.div_le_div_right le

include positive in
lemma sites_pos : 1 ≤ m.sites siteWidth ↔ siteWidth ≤ m.width := by
  rw [FillerMaster.sites, Nat.le_div_iff_mul_le positive, Nat.one_mul]

include positive in
lemma sites_zero : m.sites siteWidth = 0 ↔ m.width < siteWidth := by
  rw [FillerMaster.sites, Nat.div_eq_zero_iff]
  omega

include descending in
lemma last_le (member : m ∈ masters) : ∃ last, masters.getLast? = some last ∧
    last.width ≤ m.width := by
  cases isLast : masters.getLast? with
  | none =>
    rw [getLast?_eq_none_iff.mp isLast] at member
    exact absurd member not_mem_nil
  | some last =>
    refine ⟨last, rfl, ?_⟩
    rcases getLast?_eq_some_iff.mp isLast with ⟨front, rfl⟩
    rcases mem_append.mp member with before | same
    · exact (pairwise_append.mp descending).2.2 m before last (mem_singleton_self _)
    · rw [mem_singleton.mp same]

include descending in
lemma wide_of_haveFiller1 (have1 : haveFiller1 siteWidth masters = true) (member : m ∈ masters) :
    siteWidth ≤ m.width := by
  rcases last_le descending member with ⟨last, isLast, le⟩
  rw [haveFiller1, isLast, any_some, decide_eq_true_eq] at have1
  omega

include descending in
lemma narrow_one {n : FillerMaster} (member : n ∈ masters) (narrow : n.width < siteWidth) :
    haveFiller1 siteWidth masters = false := by
  rw [← Bool.not_eq_true]
  intro have1
  exact absurd (wide_of_haveFiller1 descending have1 member) (by omega)

include descending in
lemma whole_all (whole : ∀ before m after, masters = before ++ m :: after → siteWidth ≤ m.width →
      (∀ other ∈ before, other.sites siteWidth ≠ m.sites siteWidth) → siteWidth ∣ m.width)
    (member : m ∈ masters) (wide : siteWidth ≤ m.width) : m.width = m.sites siteWidth * siteWidth := by
  -- the first master that counts as many sites
  have found : (masters.find? fun x => x.sites siteWidth = m.sites siteWidth).isSome :=
    find?_isSome.mpr ⟨m, member, by simp⟩
  rcases isSome_iff_exists.mp found with ⟨first, isFirst⟩
  rcases find?_eq_some_iff_append.mp isFirst with ⟨same, before, after, rfl, others⟩
  have sameSites : first.sites siteWidth = m.sites siteWidth := of_decide_eq_true same
  have le : m.width ≤ first.width := by
    rcases mem_append.mp member with earlier | later
    · have not := others m earlier
      simp at not
    · rcases mem_cons.mp later with rfl | later
      · exact le_rfl
      · exact rel_of_pairwise_cons (pairwise_append.mp descending).2.1 later
  have firstWhole : siteWidth ∣ first.width := by
    refine whole before first after rfl (by omega) fun other isOther sameOther => ?_
    have not := others other isOther
    rw [sameOther, sameSites] at not
    simp at not
  have isWidth : first.width = m.sites siteWidth * siteWidth := by
    rw [← sameSites, FillerMaster.sites, Nat.div_mul_cancel firstWhole]
  have least := Nat.div_mul_le_self m.width siteWidth
  rw [FillerMaster.sites] at isWidth ⊢
  omega

include positive descending in
lemma two_sites (whole : ∀ before m after, masters = before ++ m :: after → siteWidth ≤ m.width →
      (∀ other ∈ before, other.sites siteWidth ≠ m.sites siteWidth) → siteWidth ∣ m.width)
    (notOne : haveFiller1 siteWidth masters = false) (noNarrow : ∀ n ∈ masters, siteWidth ≤ n.width)
    (member : m ∈ masters) : 2 ≤ m.sites siteWidth := by
  rcases last_le descending member with ⟨last, isLast, le⟩
  have isMember := mem_of_getLast? isLast
  have isWhole := whole_all descending whole isMember (noNarrow last isMember)
  have sites := (sites_pos positive).mpr (noNarrow last isMember)
  rw [haveFiller1, isLast, any_some, decide_eq_false_iff_not] at notOne
  have notSingle : last.sites siteWidth ≠ 1 := by
    intro single
    rw [single, Nat.one_mul] at isWhole
    exact notOne isWhole
  have mono : last.sites siteWidth ≤ m.sites siteWidth := sites_mono le
  omega

end Masters

lemma Descends.not_zero (none' : m.sites siteWidth = 0)
    (may : mayPlace siteWidth one left m = true) (some' : 1 ≤ left) :
    ¬ Descends siteWidth one (m :: ms) left out := by
  intro run
  generalize isList : m :: ms = list at run
  induction run with
  | fail => exact absurd isList (by simp)
  | fill _ fits =>
    rw [← (List.cons.inj isList).1] at fits
    omega
  | place _ _ _ ih =>
    have same := (List.cons.inj isList).1
    rw [← same, none', Nat.sub_zero] at ih
    exact ih may some' (by rw [isList, same])
  | skip not _ =>
    rw [← (List.cons.inj isList).1, may] at not
    exact absurd not (by simp)

lemma Descends.filled (run : Descends siteWidth one ms left out) (some' : 1 ≤ left) :
    ∀ taken, out = some taken → (∀ t ∈ taken, t ∈ ms ∧ 1 ≤ t.sites siteWidth) ∧
      (taken.map fun t => t.sites siteWidth).sum = left := by
  induction run with
  | fail => exact fun taken isTaken => absurd isTaken (by simp)
  | @fill m ms left may fits =>
    intro taken isTaken
    rw [← some_injective _ isTaken]
    simp [fits, some']
  | @place m ms left out may more rest ih =>
    intro taken isTaken
    rcases map_eq_some_iff.mp isTaken with ⟨others, isOut, rfl⟩
    have fits := (mayPlace_iff.mp may).1
    rcases ih (by omega) others isOut with ⟨members, sum⟩
    have wide : 1 ≤ m.sites siteWidth := by
      by_contra none'
      exact not_zero (by omega) may some' (place may more rest)
    constructor
    · intro t isTaken
      rcases mem_cons.mp isTaken with rfl | later
      · exact ⟨mem_cons_self, wide⟩
      · exact members t later
    · rw [map_cons, sum_cons, sum]
      omega
  | skip _ _ ih =>
    intro taken isTaken
    rcases ih some' taken isTaken with ⟨members, sum⟩
    exact ⟨fun t isT => ⟨mem_cons_of_mem _ (members t isT).1, (members t isT).2⟩, sum⟩

lemma Descends.first (run : Descends siteWidth one ms left out) (some' : 1 ≤ left) :
    ∀ taken, out = some taken → ∃ m rest, taken = m :: rest ∧
      ms.find? (fun m => 1 ≤ m.sites siteWidth ∧ mayPlace siteWidth one left m = true) = some m := by
  induction run with
  | fail => exact fun taken isTaken => absurd isTaken (by simp)
  | @fill m ms left may fits =>
    intro taken isTaken
    refine ⟨m, [], (some_injective _ isTaken).symm, ?_⟩
    rw [find?_cons_of_pos]
    simp [may, fits, some']
  | @place m ms left out may more rest ih =>
    intro taken isTaken
    rcases map_eq_some_iff.mp isTaken with ⟨others, isOut, rfl⟩
    have wide : 1 ≤ m.sites siteWidth := by
      by_contra none'
      exact not_zero (by omega) may some' (place may more rest)
    refine ⟨m, others, rfl, ?_⟩
    rw [find?_cons_of_pos]
    simp [may, wide]
  | @skip m ms left out not _ ih =>
    intro taken isTaken
    rcases ih some' taken isTaken with ⟨first, rest, isFirst, found⟩
    refine ⟨first, rest, isFirst, ?_⟩
    rw [find?_cons_of_neg, found]
    simp [not]

lemma Descends.unique {out' : Option (List FillerMaster)}
    (run : Descends siteWidth one ms left out) (run' : Descends siteWidth one ms left out') :
    out = out' := by
  induction run generalizing out' with
  | fail =>
    cases run' with
    | fail => rfl
  | fill may fits =>
    cases run' with
    | fill => rfl
    | place _ more _ => exact absurd fits more
    | skip not _ => exact absurd (may.symm.trans not) (by simp)
  | place may more _ ih =>
    cases run' with
    | fill _ fits => exact absurd fits more
    | place _ _ rest => rw [ih rest]
    | skip not _ => exact absurd (may.symm.trans not) (by simp)
  | skip not _ ih =>
    cases run' with
    | fill may _ => exact absurd (may.symm.trans not) (by simp)
    | place may _ _ => exact absurd (may.symm.trans not) (by simp)
    | skip _ rest => exact ih rest

lemma Descends.skips {before : List FillerMaster}
    (nots : ∀ p ∈ before, mayPlace siteWidth one left p = false)
    (run : Descends siteWidth one ms left out) : Descends siteWidth one (before ++ ms) left out := by
  induction before with
  | nil => exact run
  | cons p before ih =>
    rcases forall_mem_cons.mp nots with ⟨first, rest⟩
    exact skip first (ih rest)

lemma Descends.not_stuck (descending : Descending ms) (run : Descends siteWidth false ms left out)
    (some' : 2 ≤ left)
    (stuck : ∀ m ∈ ms, 2 ≤ m.sites siteWidth → mayPlace siteWidth false left m = false) :
    ∀ n ∈ ms, n.sites siteWidth ≠ 0 := by
  induction run with
  | fail => exact fun n member => absurd member not_mem_nil
  | @fill m ms left may fits =>
    have not := stuck m mem_cons_self (by omega)
    rw [may] at not
    exact absurd not (by simp)
  | @place m ms left out may more rest ih =>
    have small : m.sites siteWidth ≤ 1 := by
      by_contra large
      have not := stuck m mem_cons_self (by omega)
      rw [may] at not
      exact absurd not (by simp)
    have notNone : m.sites siteWidth ≠ 0 := fun none' =>
      not_zero none' may (by omega) (place may more rest)
    rcases (mayPlace_iff.mp may).2 with isOne | notLast
    · exact absurd isOne (by simp)
    · refine ih descending (by omega) fun m' member two => ?_
      have le : m'.sites siteWidth ≤ m.sites siteWidth := by
        rcases mem_cons.mp member with rfl | later
        · exact le_rfl
        · exact sites_mono (rel_of_pairwise_cons descending later)
      omega
  | @skip m ms left out not rest ih =>
    intro n member
    rcases mem_cons.mp member with rfl | later
    · intro none'
      have may := (@mayPlace_iff siteWidth false left n).mpr ⟨by omega, .inr (by omega)⟩
      rw [not] at may
      exact absurd may (by simp)
    · exact ih (pairwise_cons.mp descending).2 some'
        (fun m' isMember => stuck m' (mem_cons_of_mem _ isMember)) n later

section Greedy

variable (positive : 0 < siteWidth) (descending : Descending masters)
  (fills : GreedyFills siteWidth masters)

include positive descending fills

omit positive in
lemma GreedyFills.no_narrow {before : List FillerMaster} (isMasters : masters = before ++ m :: ms)
    (two : 2 ≤ left) (small : m.sites siteWidth ≤ 1)
    (nots : ∀ p ∈ before, 1 ≤ p.sites siteWidth →
      mayPlace siteWidth (haveFiller1 siteWidth masters) left p = false) :
    ∀ n ∈ masters, siteWidth ≤ n.width := by
  intro n member
  by_contra narrow
  rcases fills.narrow n member (by omega) left two with ⟨p, isMaster, large, may⟩
  rw [isMasters] at isMaster
  rcases mem_append.mp isMaster with earlier | later
  · rw [nots p earlier (by omega)] at may
    exact absurd may (by simp)
  · have le : p.sites siteWidth ≤ m.sites siteWidth := by
      rcases mem_cons.mp later with rfl | later
      · exact le_rfl
      · rw [isMasters] at descending
        exact sites_mono (rel_of_pairwise_cons (pairwise_append.mp descending).2.1 later)
    omega

lemma GreedyFills.passed {before : List FillerMaster} (isMasters : masters = before ++ m :: ms)
    (wide : 1 ≤ m.sites siteWidth) (more : m.sites siteWidth < left)
    (nots : ∀ p ∈ before, 1 ≤ p.sites siteWidth →
      mayPlace siteWidth (haveFiller1 siteWidth masters) left p = false) :
    ∀ p ∈ before, 1 ≤ p.sites siteWidth →
      mayPlace siteWidth (haveFiller1 siteWidth masters) (left - m.sites siteWidth) p = false := by
  intro p member isWide
  rw [← Bool.not_eq_true]
  intro mayLater
  have not := nots p member isWide
  rw [← Bool.not_eq_true, mayPlace_iff, not_and_or, not_or] at not
  rcases mayPlace_iff.mp mayLater with ⟨fits, _⟩
  rcases not with tooWide | ⟨notOne, leavesOne⟩
  · omega
  · -- only a master of one site leaves room for it, and then all have two sites
    have small : m.sites siteWidth ≤ 1 := by omega
    have noNarrow := fills.no_narrow descending isMasters (by omega) small nots
    have isMember : m ∈ masters := by simp [isMasters]
    have two := two_sites positive descending fills.whole (by simpa using notOne) noNarrow isMember
    omega

lemma GreedyFills.descends {before : List FillerMaster} (isMasters : masters = before ++ ms)
    (some' : 1 ≤ left) (nots : ∀ p ∈ before, 1 ≤ p.sites siteWidth →
      mayPlace siteWidth (haveFiller1 siteWidth masters) left p = false) :
    ∃ out, Descends siteWidth (haveFiller1 siteWidth masters) ms left out ∧
      (Fillable siteWidth masters left → out ≠ none) := by
  induction left using Nat.strong_induction_on generalizing before ms with
  | _ left less =>
    induction ms generalizing before with
    | nil =>
      refine ⟨none, fail, fun fillable => ?_⟩
      rcases fills.greedy left some' fillable with ⟨m, found, _⟩
      have member := mem_of_find?_eq_some found
      have may := find?_some found
      rw [decide_eq_true_eq] at may
      rw [isMasters, append_nil] at member
      rw [nots m member may.1] at may
      exact absurd may.2 (by simp)
    | cons m ms ih =>
      cases may : mayPlace siteWidth (haveFiller1 siteWidth masters) left m with
      | false =>
        have nots' : ∀ p ∈ before ++ [m], 1 ≤ p.sites siteWidth →
            mayPlace siteWidth (haveFiller1 siteWidth masters) left p = false := by
          intro p member wide
          rcases mem_append.mp member with earlier | last
          · exact nots p earlier wide
          · rw [mem_singleton.mp last, may]
        rcases ih (by rw [isMasters, append_assoc]; rfl) nots' with ⟨out, run, filled⟩
        exact ⟨out, skip may run, filled⟩
      | true =>
        have isMember : m ∈ masters := by simp [isMasters]
        have fits := (mayPlace_iff.mp may).1
        have wide : 1 ≤ m.sites siteWidth := by
          by_contra none'
          have narrow := (sites_zero positive).mp (by omega : m.sites siteWidth = 0)
          have notOne := narrow_one descending isMember narrow
          rcases (mayPlace_iff.mp may).2 with isOne | notLast
          · rw [notOne] at isOne
            exact absurd isOne (by simp)
          · have noNarrow := fills.no_narrow descending isMasters (by omega)
              (by omega) nots m isMember
            omega
        by_cases last : m.sites siteWidth = left
        · exact ⟨some [m], fill may last, fun _ => by simp⟩
        · have passed := fills.passed positive descending isMasters wide (by omega) nots
          rcases less (left - m.sites siteWidth) (by omega) isMasters (by omega) passed with
            ⟨out, run, filled⟩
          refine ⟨out.map (m :: ·), place may last run, fun fillable => ?_⟩
          rcases fills.greedy left some' fillable with ⟨first, found, rest⟩
          have isFirst : masters.find? (fun m => 1 ≤ m.sites siteWidth ∧
              mayPlace siteWidth (haveFiller1 siteWidth masters) left m = true) = some m := by
            refine find?_eq_some_iff_append.mpr
              ⟨by simp [wide, may], before, ms, isMasters, fun p member => ?_⟩
            rw [Bool.not_eq_true', decide_eq_false_iff_not]
            rintro ⟨isWide, mayP⟩
            rw [nots p member isWide] at mayP
            exact absurd mayP (by simp)
          rw [found] at isFirst
          rw [some_injective _ isFirst] at rest
          simpa using filled rest

lemma GreedyFills.descends_all (some' : 1 ≤ left) :
    ∃ out, Descends siteWidth (haveFiller1 siteWidth masters) masters left out ∧
      (Fillable siteWidth masters left → out ≠ none) :=
  fills.descends positive descending (nil_append masters).symm some'
    fun _ member => absurd member not_mem_nil

end Greedy

end OpenRoad.Dpl
