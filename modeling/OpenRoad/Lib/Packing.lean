import Mathlib.Tactic

/-! Blocks of some widths, placed one after another between two ends. -/

namespace OpenRoad.Lib

open List

/-- The places `ss` of blocks of widths `ws`, from `lo` on and ending by `hi`. -/
def Packed : List Int → Int → Int → List Int → Prop
  | [], _, _, [] => True
  | w :: ws, lo, hi, s :: ss => lo ≤ s ∧ s + w ≤ hi ∧ Packed ws (s + w) hi ss
  | _, _, _, _ => False

def lefts (lo : Int) : List Int → List Int
  | [] => []
  | w :: ws => lo :: lefts (lo + w) ws

def rights (hi : Int) : List Int → List Int
  | [] => []
  | w :: ws => ((rights hi ws).headD hi - w) :: rights hi ws

def endOf (lo : Int) : List Int → List Int → Int
  | w :: ws, s :: ss => endOf (s + w) ws ss
  | _, _ => lo

variable {ws ss : List Int} {lo hi w s : Int}

lemma Packed.length_eq (packed : Packed ws lo hi ss) : ss.length = ws.length := by
  induction ws generalizing lo ss with
  | nil =>
    cases ss with
    | nil => rfl
    | cons s ss => exact packed.elim
  | cons w ws ih =>
    cases ss with
    | nil => exact packed.elim
    | cons s ss => rw [length_cons, length_cons, ih packed.2.2]

lemma Packed.mono {lo' : Int} (packed : Packed ws lo hi ss) (le : lo' ≤ lo) :
    Packed ws lo' hi ss := by
  cases ws with
  | nil =>
    cases ss with
    | nil => trivial
    | cons s ss => exact packed.elim
  | cons w ws =>
    cases ss with
    | nil => exact packed.elim
    | cons s ss => exact ⟨le.trans packed.1, packed.2⟩

lemma packed_concat (sizes : ss.length = ws.length) : Packed (ws ++ [w]) lo hi (ss ++ [s]) ↔
      Packed ws lo hi ss ∧ endOf lo ws ss ≤ s ∧ s + w ≤ hi := by
  induction ws generalizing lo ss with
  | nil =>
    rw [length_eq_zero_iff.mp sizes]
    simp only [nil_append, Packed, endOf, and_true, true_and]
  | cons first ws ih =>
    cases ss with
    | nil => cases sizes
    | cons start ss =>
      rw [length_cons, length_cons, Nat.add_right_cancel_iff] at sizes
      simp only [cons_append, Packed, endOf, ih sizes, and_assoc]

lemma endOf_concat (sizes : ss.length = ws.length) (lo : Int) :
    endOf lo (ws ++ [w]) (ss ++ [s]) = s + w := by
  induction ws generalizing lo ss with
  | nil =>
    rw [length_eq_zero_iff.mp sizes]
    rfl
  | cons first ws ih =>
    cases ss with
    | nil => cases sizes
    | cons start ss =>
      rw [length_cons, length_cons, Nat.add_right_cancel_iff] at sizes
      exact ih sizes _

lemma endOf_last (sizes : ss.length = ws.length) (some' : ws ≠ []) (lo : Int) :
    endOf lo ws ss = ss.getLastD 0 + ws.getLastD 0 := by
  rcases eq_nil_or_concat ws with empty | ⟨front, last, rfl⟩
  · exact absurd empty some'
  · rcases eq_nil_or_concat ss with rfl | ⟨before, final, rfl⟩
    · simp at sizes
    · rw [concat_eq_append, concat_eq_append] at sizes ⊢
      rw [length_append, length_append] at sizes
      rw [endOf_concat (Nat.add_right_cancel sizes), getLastD_concat, getLastD_concat]

lemma Packed.sum_le_endOf (packed : Packed ws lo hi ss) : lo + ws.sum ≤ endOf lo ws ss := by
  induction ws generalizing lo ss with
  | nil =>
    rw [sum_nil, add_zero]
    exact le_rfl
  | cons w ws ih =>
    cases ss with
    | nil => exact packed.elim
    | cons s ss =>
      have later := ih packed.2.2
      have low := packed.1
      rw [sum_cons, endOf]
      omega

lemma Packed.endOf_le (packed : Packed ws lo hi ss) (some' : ws ≠ []) : endOf lo ws ss ≤ hi := by
  induction ws generalizing lo ss with
  | nil => exact absurd rfl some'
  | cons w ws ih =>
    cases ss with
    | nil => exact packed.elim
    | cons s ss =>
      rcases packed with ⟨_, high, packed⟩
      cases ws with
      | nil =>
        cases ss with
        | nil => exact high
        | cons => exact packed.elim
      | cons next ws => exact ih packed (cons_ne_nil next ws)

lemma Packed.room (packed : Packed ws lo hi ss) (some' : ws ≠ []) : lo + ws.sum ≤ hi :=
  packed.sum_le_endOf.trans (packed.endOf_le some')

lemma Packed.le_endOf (nonneg : ∀ w ∈ ws, 0 ≤ w) (packed : Packed ws lo hi ss) :
    lo ≤ endOf lo ws ss := by
  have past := packed.sum_le_endOf
  have sum := sum_nonneg nonneg
  omega

section

variable (nonneg : ∀ w ∈ ws, 0 ≤ w)

include nonneg

lemma packed_lefts (room : lo + ws.sum ≤ hi) : Packed ws lo hi (lefts lo ws) := by
  induction ws generalizing lo with
  | nil => trivial
  | cons w ws ih =>
    rw [sum_cons] at room
    have rest : ∀ w ∈ ws, 0 ≤ w := fun other member => nonneg other (mem_cons_of_mem _ member)
    have sum : 0 ≤ ws.sum := sum_nonneg rest
    exact ⟨le_rfl, by omega, ih rest (by omega)⟩

lemma exists_packed_iff (some' : ws ≠ []) : (∃ ss, Packed ws lo hi ss) ↔ lo + ws.sum ≤ hi := by
  constructor
  · rintro ⟨ss, packed⟩
    exact packed.room some'
  · intro room
    exact ⟨lefts lo ws, packed_lefts nonneg room⟩

lemma Packed.above (packed : Packed ws lo hi ss) : ∀ s ∈ ss, lo ≤ s := by
  induction ws generalizing lo ss with
  | nil =>
    cases ss with
    | nil => exact fun s member => absurd member not_mem_nil
    | cons s ss => exact packed.elim
  | cons w ws ih =>
    cases ss with
    | nil => exact packed.elim
    | cons first ss =>
      intro s member
      rcases mem_cons.mp member with rfl | later
      · exact packed.1
      · have past := ih (fun other member => nonneg other (mem_cons_of_mem _ member))
          packed.2.2 s later
        have width := nonneg w mem_cons_self
        have low := packed.1
        omega

end

lemma Packed.between (packed : Packed ws lo hi ss) :
    Forall₂ (· ≤ ·) (lefts lo ws) ss ∧ Forall₂ (· ≤ ·) ss (rights hi ws) := by
  induction ws generalizing lo ss with
  | nil =>
    cases ss with
    | nil => exact ⟨.nil, .nil⟩
    | cons s ss => exact packed.elim
  | cons w ws ih =>
    cases ss with
    | nil => exact packed.elim
    | cons s ss =>
      rcases packed with ⟨low, high, packed⟩
      rcases ih packed with ⟨_, before⟩
      rcases ih (packed.mono (Int.add_le_add_right low w)) with ⟨after, _⟩
      refine ⟨.cons low after, .cons ?_ before⟩
      rw [le_sub_iff_add_le]
      cases ws with
      | nil => exact high
      | cons next ws =>
        cases before with
        | cons le rest => exact packed.1.trans le

lemma lefts_last (lo : Int) (some' : ws ≠ []) :
    (lefts lo ws).head? = some lo ∧ (lefts lo ws).getLastD 0 = lo + ws.dropLast.sum := by
  induction ws generalizing lo with
  | nil => exact absurd rfl some'
  | cons w ws ih =>
    refine ⟨rfl, ?_⟩
    cases ws with
    | nil =>
      change lo = lo + 0
      omega
    | cons next ws =>
      have last := (ih (lo + w) (cons_ne_nil next ws)).2
      rw [dropLast_cons_cons, sum_cons, ← add_assoc, ← last]
      rfl

lemma Packed.until {hi' : Int} (nonneg : ∀ w ∈ ws, 0 ≤ w) (packed : Packed ws lo hi ss)
    (ends : endOf lo ws ss ≤ hi') : Packed ws lo hi' ss := by
  induction ws generalizing lo ss with
  | nil =>
    cases ss with
    | nil => trivial
    | cons s ss => exact packed.elim
  | cons w ws ih =>
    cases ss with
    | nil => exact packed.elim
    | cons s ss =>
      have rest := ih (fun other member => nonneg other (mem_cons_of_mem _ member))
        packed.2.2 ends
      exact ⟨packed.1, (packed.2.2.le_endOf fun other member => nonneg other
        (mem_cons_of_mem _ member)).trans ends, rest⟩

lemma packed_add (d : Int) :
    Packed ws (lo + d) (hi + d) (ss.map (· + d)) ↔ Packed ws lo hi ss := by
  induction ws generalizing lo ss with
  | nil =>
    cases ss with
    | nil => exact Iff.rfl
    | cons s ss => exact Iff.rfl
  | cons w ws ih =>
    cases ss with
    | nil => exact Iff.rfl
    | cons s ss =>
      simp only [map_cons, Packed, add_right_comm s d w, Int.add_le_add_iff_right, ih]

lemma packed_iff (nonneg : ∀ w ∈ ws, 0 ≤ w) : Packed ws lo hi ss ↔ ss.length = ws.length ∧
      (∀ (k : Nat) (s w : Int), ss[k]? = some s → ws[k]? = some w → lo ≤ s ∧ s + w ≤ hi) ∧
      ∀ (k : Nat) (s s' w : Int), ss[k]? = some s → ss[k + 1]? = some s' → ws[k]? = some w →
        s + w ≤ s' := by
  induction ws generalizing lo ss with
  | nil =>
    cases ss with
    | nil => simp [Packed]
    | cons s ss => simp [Packed]
  | cons w ws ih =>
    have rest : ∀ w ∈ ws, 0 ≤ w := fun other member => nonneg other (mem_cons_of_mem _ member)
    have width := nonneg w mem_cons_self
    cases ss with
    | nil => simp [Packed]
    | cons s ss =>
      rw [Packed, ih rest]
      constructor
      · rintro ⟨low, high, sizes, inside, order⟩
        refine ⟨congrArg (· + 1) sizes, ?_, ?_⟩
        · intro k place width' isPlace isWidth
          cases k with
          | zero =>
            rw [getElem?_cons_zero, Option.some.injEq] at isPlace isWidth
            rw [← isPlace, ← isWidth]
            exact ⟨low, high⟩
          | succ k =>
            have bounds := inside k place width' isPlace isWidth
            exact ⟨by omega, bounds.2⟩
        · intro k place next width' isPlace isNext isWidth
          cases k with
          | zero =>
            rw [getElem?_cons_zero, Option.some.injEq] at isPlace isWidth
            rw [getElem?_cons_succ] at isNext
            rcases List.getElem?_eq_some_iff.mp isNext with ⟨there, _⟩
            have isWidth' := getElem?_eq_getElem (sizes ▸ there)
            rw [← isPlace, ← isWidth]
            exact (inside 0 next _ isNext isWidth').1
          | succ k => exact order k place next width' isPlace isNext isWidth
      · rintro ⟨sizes, inside, order⟩
        have sizes' := Nat.add_right_cancel sizes
        have first := inside 0 s w rfl rfl
        refine ⟨first.1, first.2, sizes', ?_, fun k => order (k + 1)⟩
        intro k place width' isPlace isWidth
        refine ⟨?_, (inside (k + 1) place width' isPlace isWidth).2⟩
        induction k generalizing place width' with
        | zero => exact order 0 s place w rfl isPlace rfl
        | succ k before =>
          rcases List.getElem?_eq_some_iff.mp isPlace with ⟨there, _⟩
          rcases List.getElem?_eq_some_iff.mp isWidth with ⟨known, _⟩
          have isPlace' := getElem?_eq_getElem (show k < ss.length by omega)
          have isWidth' := getElem?_eq_getElem (show k < ws.length by omega)
          have past := before _ _ isPlace' isWidth'
          have step := order (k + 1) _ place _ isPlace' isPlace isWidth'
          have size := rest _ (getElem_mem (show k < ws.length by omega))
          omega

end OpenRoad.Lib
