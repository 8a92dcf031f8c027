import Mathlib.Algebra.BigOperators.Group.Finset.Piecewise

/-! Elements in buckets by a key of their value, with the total weight of each bucket. -/

namespace OpenRoad.Lib

open Function

variable {β ι υ M : Type} [DecidableEq β] [DecidableEq ι] [AddCommGroup M]

structure Bins (β ι M : Type) where
  members : ι → Finset β
  totals : ι → M

variable (key : β → υ → Option ι) (weight : β → υ → M)

/-- An element is taken out of the bucket that it should be in. -/
def Bins.remove (buckets : Bins β ι M) (b : β) (u : υ) : Option (Bins β ι M) :=
  match key b u with
  | none => some buckets
  | some i =>
    if b ∈ buckets.members i then
      some ⟨update buckets.members i ((buckets.members i).erase b),
        update buckets.totals i (buckets.totals i - weight b u)⟩
    else none

def Bins.insert (buckets : Bins β ι M) (b : β) (u : υ) : Bins β ι M :=
  match key b u with
  | none => buckets
  | some i =>
    ⟨update buckets.members i (Insert.insert b (buckets.members i)),
      update buckets.totals i (buckets.totals i + weight b u)⟩

/-- Elements moved one after the other, each from one value to another. -/
def Bins.moveAll (old new : β → υ) : List β → Bins β ι M → Option (Bins β ι M)
  | [], buckets => some buckets
  | b :: rest, buckets =>
    match buckets.remove key weight b (old b) with
    | none => none
    | some removed => (removed.insert key weight b (new b)).moveAll old new rest

structure Bins.Binned (buckets : Bins β ι M) (value : β → υ) : Prop where
  mem : ∀ i b, b ∈ buckets.members i ↔ key b (value b) = some i
  total : ∀ i, buckets.totals i = ∑ b ∈ buckets.members i, weight b (value b)

variable {key weight} {buckets : Bins β ι M} {value : β → υ}

lemma sum_update_erase {s : Finset β} (f : β → M) {b : β} (inside : b ∈ s) :
    ∑ a ∈ s, f a - f b = ∑ a ∈ s.erase b, f a := by
  rw [sub_eq_iff_eq_add]
  exact (Finset.sum_erase_add s f inside).symm

structure Bins.Without (key : β → υ → Option ι) (weight : β → υ → M)
    (buckets : Bins β ι M) (value : β → υ) (out : β) : Prop where
  mem : ∀ i b, b ∈ buckets.members i ↔ b ≠ out ∧ key b (value b) = some i
  total : ∀ i, buckets.totals i = ∑ b ∈ buckets.members i, weight b (value b)

lemma Bins.Binned.remove (binned : buckets.Binned key weight value) (b : β) :
    ∃ removed, buckets.remove key weight b (value b) = some removed ∧
      removed.Without key weight value b := by
  cases isKey : key b (value b) with
  | none =>
    refine ⟨buckets, by rw [Bins.remove, isKey], ?_, binned.total⟩
    intro i a
    rw [binned.mem]
    refine ⟨fun inside => ⟨?_, inside⟩, fun both => both.2⟩
    rintro rfl
    rw [isKey] at inside
    cases inside
  | some i =>
    have inside : b ∈ buckets.members i := (binned.mem i b).mpr isKey
    refine ⟨_, by rw [Bins.remove, isKey]; exact if_pos inside, ?_, ?_⟩
    · intro j a
      simp only
      by_cases same : j = i
      · rw [same, update_self, Finset.mem_erase, binned.mem]
      · rw [update_of_ne same, binned.mem]
        refine ⟨fun found => ⟨?_, found⟩, fun both => both.2⟩
        rintro rfl
        exact same (Option.some.inj (found.symm.trans isKey))
    · intro j
      simp only
      by_cases same : j = i
      · rw [same, update_self, update_self, binned.total,
          sum_update_erase (fun a => weight a (value a)) inside]
      · rw [update_of_ne same, update_of_ne same, binned.total]

omit [DecidableEq ι] in
lemma Bins.Without.sum_update (without : buckets.Without key weight value b) (new : υ) (i : ι) :
    ∑ a ∈ buckets.members i, weight a (update value b new a) =
      ∑ a ∈ buckets.members i, weight a (value a) := by
  apply Finset.sum_congr rfl
  intro a member
  rw [update_of_ne ((without.mem i a).mp member).1]

lemma Bins.Without.insert {b : β} (without : buckets.Without key weight value b) (new : υ) :
    (buckets.insert key weight b new).Binned key weight (update value b new) := by
  have elsewhere : ∀ i a, a ≠ b → (a ∈ buckets.members i ↔
      key a (update value b new a) = some i) := by
    intro i a differ
    rw [without.mem, update_of_ne differ]
    exact and_iff_right differ
  have absent : ∀ i, b ∉ buckets.members i := fun i inside => ((without.mem i b).mp inside).1 rfl
  cases isKey : key b new with
  | none =>
    rw [Bins.insert, isKey]
    constructor
    · intro i a
      by_cases same : a = b
      · rw [same, update_self, isKey]
        exact iff_of_false (absent i) (by simp)
      · exact elsewhere i a same
    · intro i
      rw [without.sum_update, without.total]
  | some i =>
    rw [Bins.insert, isKey]
    constructor
    · intro j a
      simp only
      by_cases sameBucket : j = i
      · rw [sameBucket, update_self, Finset.mem_insert]
        by_cases same : a = b
        · rw [same, update_self, isKey]
          exact iff_of_true (.inl rfl) rfl
        · rw [← elsewhere i a same]
          exact or_iff_right same
      · rw [update_of_ne sameBucket]
        by_cases same : a = b
        · rw [same, update_self, isKey]
          exact iff_of_false (absent j) fun found => sameBucket (Option.some.inj found).symm
        · exact elsewhere j a same
    · intro j
      simp only
      by_cases sameBucket : j = i
      · rw [sameBucket, update_self, update_self, without.total,
          Finset.sum_insert (absent i), without.sum_update, update_self, add_comm]
      · rw [update_of_ne sameBucket, update_of_ne sameBucket,
          without.sum_update, without.total]

lemma Bins.Binned.moveAll {old new : β → υ} (elements : List β) (nodup : elements.Nodup) :
    ∀ {buckets : Bins β ι M} {value : β → υ}, buckets.Binned key weight value →
      (∀ b ∈ elements, value b = old b) →
      ∃ moved, buckets.moveAll key weight old new elements = some moved ∧
        moved.Binned key weight fun b => if b ∈ elements then new b else value b := by
  induction elements with
  | nil =>
    intro buckets value binned _
    exact ⟨buckets, rfl, by simpa using binned⟩
  | cons b rest ih =>
    intro buckets value binned isOld
    rcases binned.remove b with ⟨removed, isRemoved, without⟩
    have next := without.insert (new b)
    have nodupRest := (List.nodup_cons.mp nodup).2
    have outside := (List.nodup_cons.mp nodup).1
    have oldRest : ∀ a ∈ rest, update value b (new b) a = old a := by
      intro a member
      have differ : a ≠ b := fun same => outside (same ▸ member)
      rw [update_of_ne differ]
      exact isOld a (List.mem_cons_of_mem b member)
    rcases ih nodupRest next oldRest with ⟨moved, isMoved, binnedMoved⟩
    refine ⟨moved, ?_, ?_⟩
    · rw [Bins.moveAll, ← isOld b List.mem_cons_self, isRemoved]
      exact isMoved
    · have sameValue : (fun a => if a ∈ rest then new a else update value b (new b) a) =
          fun a => if a ∈ b :: rest then new a else value a := by
        funext a
        by_cases same : a = b
        · simp [same]
        · simp [same]
      rw [sameValue] at binnedMoved
      exact binnedMoved

end OpenRoad.Lib
