import Mathlib.Tactic

/-! A list filled greedily into chunks of a given size, and how many chunks it can be cut into. -/

namespace OpenRoad.Lib

open List

variable {α : Type} (size : α → Nat) (limit : Nat)

def totalSize (items : List α) : Nat := (items.map size).sum

@[simp] lemma totalSize_nil : totalSize size ([] : List α) = 0 := rfl

@[simp] lemma totalSize_cons (a : α) (items : List α) :
    totalSize size (a :: items) = size a + totalSize size items := rfl

@[simp] lemma totalSize_append (items others : List α) :
    totalSize size (items ++ others) = totalSize size items + totalSize size others := by
  simp [totalSize]

def fill : Nat → List α → List α × List α
  | _, [] => ([], [])
  | acc, a :: rest =>
    if acc < limit then
      let (taken, left) := fill (acc + size a) rest
      (a :: taken, left)
    else ([], a :: rest)

def fillAll : Nat → List α → List (List α) × List α
  | 0, items => ([], items)
  | k + 1, items =>
    let (chunk, rest) := fill size limit 0 items
    let (chunks, left) := fillAll k rest
    (chunk :: chunks, left)

def Cuts (k : Nat) (items : List α) : Prop :=
  ∃ chunks : List (List α), chunks.flatten = items ∧ chunks.length = k ∧
    (∀ chunk ∈ chunks, chunk ≠ []) ∧ ∀ chunk ∈ chunks.dropLast, limit ≤ totalSize size chunk

lemma fill_cons (acc : Nat) (a : α) (rest : List α) : fill size limit acc (a :: rest) =
      if acc < limit then
        (a :: (fill size limit (acc + size a) rest).1, (fill size limit (acc + size a) rest).2)
      else ([], a :: rest) := rfl

lemma fillAll_succ (k : Nat) (items : List α) : fillAll size limit (k + 1) items =
      ((fill size limit 0 items).1 :: (fillAll size limit k (fill size limit 0 items).2).1,
        (fillAll size limit k (fill size limit 0 items).2).2) := rfl

variable {size limit}

variable (size limit) in
lemma fill_append (acc : Nat) (items : List α) :
    (fill size limit acc items).1 ++ (fill size limit acc items).2 = items := by
  induction items generalizing acc with
  | nil => rfl
  | cons a rest ih =>
    rw [fill_cons]
    split
    · exact congrArg (a :: ·) (ih (acc + size a))
    · rfl

lemma fill_reaches (acc : Nat) (items : List α) (left : (fill size limit acc items).2 ≠ []) :
    limit ≤ acc + totalSize size (fill size limit acc items).1 := by
  induction items generalizing acc with
  | nil => exact absurd rfl left
  | cons a rest ih =>
    rw [fill_cons] at left ⊢
    split
    · rename_i below
      rw [if_pos below] at left
      have later := ih (acc + size a) left
      simp only [totalSize_cons]
      omega
    · rename_i reached
      simp only [totalSize_nil]
      omega

lemma fill_prefix (acc : Nat) (front rest : List α) (reached : limit ≤ acc + totalSize size front) :
    ∃ more, front = (fill size limit acc (front ++ rest)).1 ++ more ∧
      (fill size limit acc (front ++ rest)).2 = more ++ rest := by
  induction front generalizing acc with
  | nil =>
    refine ⟨[], ?_, ?_⟩
    · cases rest with
      | nil => rfl
      | cons a rest =>
        have full : ¬ acc < limit := by simpa using reached
        simp [fill_cons, full]
    · cases rest with
      | nil => rfl
      | cons a rest =>
        have full : ¬ acc < limit := by simpa using reached
        simp [fill_cons, full]
  | cons a front ih =>
    rw [cons_append, fill_cons]
    split
    · rw [totalSize_cons, ← Nat.add_assoc] at reached
      rcases ih (acc + size a) reached with ⟨more, isFront, isLeft⟩
      exact ⟨more, congrArg (a :: ·) isFront, isLeft⟩
    · exact ⟨a :: front, rfl, rfl⟩

lemma fill_ne_nil {items : List α} (positive : 0 < limit) (notEmpty : items ≠ []) :
    (fill size limit 0 items).1 ≠ [] := by
  cases items with
  | nil => exact absurd rfl notEmpty
  | cons a rest =>
    rw [fill_cons, if_pos positive]
    exact cons_ne_nil _ _

lemma fill_le {acc : Nat} {items : List α} (ones : ∀ a ∈ items, size a = 1) (below : acc ≤ limit) :
    acc + totalSize size (fill size limit acc items).1 ≤ limit := by
  induction items generalizing acc with
  | nil => exact below
  | cons a rest ih =>
    rw [fill_cons]
    split
    · rename_i less
      have one := ones a mem_cons_self
      have room : acc + size a ≤ limit := by omega
      have later := ih (fun b member => ones b (mem_cons_of_mem a member)) room
      simp only [totalSize_cons]
      omega
    · simpa using below

variable (size limit) in
lemma fillAll_append (k : Nat) (items : List α) :
    (fillAll size limit k items).1.flatten ++ (fillAll size limit k items).2 = items := by
  induction k generalizing items with
  | zero => rfl
  | succ k ih =>
    rw [fillAll_succ]
    dsimp only
    rw [flatten_cons, append_assoc, ih, fill_append]

variable {k : Nat} {items : List α}

lemma fillAll_left (positive : ∀ a ∈ items, 0 < size a)
    (enough : totalSize size items ≤ k * limit) : (fillAll size limit k items).2 = [] := by
  induction k generalizing items with
  | zero =>
    rw [fillAll]
    cases items with
    | nil => rfl
    | cons a rest =>
      have first := positive a mem_cons_self
      rw [totalSize_cons] at enough
      omega
  | succ k ih =>
    rw [fillAll_succ]
    dsimp only
    have split := fill_append size limit 0 items
    have total := congrArg (totalSize size) split
    rw [totalSize_append] at total
    by_cases left : (fill size limit 0 items).2 = []
    · rw [left]
      exact ih nofun (by simp)
    · have reached := fill_reaches 0 items left
      apply ih
      · intro a member
        apply positive
        rw [← split]
        exact mem_append_right _ member
      · rw [Nat.add_mul] at enough
        omega

lemma fillAll_le {k : Nat} {items chunk : List α} (ones : ∀ a ∈ items, size a = 1)
    (member : chunk ∈ (fillAll size limit k items).1) : totalSize size chunk ≤ limit := by
  induction k generalizing items with
  | zero => cases member
  | succ k ih =>
    rw [fillAll_succ] at member
    rcases mem_cons.mp member with rfl | later
    · simpa using fill_le ones (Nat.zero_le limit)
    · refine ih (fun a inside => ones a ?_) later
      rw [← fill_append size limit 0 items]
      exact mem_append_right _ inside

lemma cuts_one (items : List α) : Cuts size limit 1 items ↔ items ≠ [] := by
  constructor
  · rintro ⟨chunks, rfl, isOne, filled, _⟩
    rcases length_eq_one_iff.mp isOne with ⟨chunk, rfl⟩
    simpa using filled
  · intro notEmpty
    exact ⟨[items], by simp, rfl, by simpa using notEmpty, nofun⟩

lemma cuts_map :
    Cuts id limit k (items.map size) ↔ Cuts size limit k items := by
  have total : ∀ chunk : List α, totalSize id (chunk.map size) = totalSize size chunk := by
    intro chunk
    rw [totalSize, totalSize, map_id]
  constructor
  · rintro ⟨chunks, same, isLength, filled, reached⟩
    have lifted : ∃ chunks' : List (List α), chunks'.flatten = items ∧
        chunks = chunks'.map (List.map size) := by
      clear isLength filled reached
      induction chunks generalizing items with
      | nil =>
        have empty : items = [] := map_eq_nil_iff.mp same.symm
        exact ⟨[], empty.symm, rfl⟩
      | cons chunk chunks ih =>
        rw [flatten_cons] at same
        rcases map_eq_append_iff.mp same.symm with ⟨front, rest, rfl, rfl, isRest⟩
        rcases ih isRest.symm with ⟨chunks', rfl, rfl⟩
        exact ⟨front :: chunks', rfl, rfl⟩
    rcases lifted with ⟨chunks', isItems, rfl⟩
    refine ⟨chunks', isItems, by simpa using isLength, ?_, ?_⟩
    · intro chunk member empty
      exact filled _ (mem_map_of_mem member) (by rw [empty]; rfl)
    · intro chunk member
      rw [← map_dropLast] at reached
      rw [← total]
      exact reached _ (mem_map_of_mem member)
  · rintro ⟨chunks, rfl, isLength, filled, reached⟩
    refine ⟨chunks.map (List.map size), by rw [map_flatten], by simpa using isLength, ?_, ?_⟩
    · intro chunk member
      rcases mem_map.mp member with ⟨chunk', isChunk, rfl⟩
      simpa using filled chunk' isChunk
    · intro chunk member
      rw [← map_dropLast] at member
      rcases mem_map.mp member with ⟨chunk', isChunk, rfl⟩
      rw [total]
      exact reached chunk' isChunk

lemma Cuts.append_left (front : List α) (positive : 0 < k) (cuts : Cuts size limit k items) :
    Cuts size limit k (front ++ items) := by
  rcases cuts with ⟨chunks, rfl, isLength, filled, reached⟩
  cases chunks with
  | nil =>
    rw [← isLength] at positive
    exact absurd positive (lt_irrefl 0)
  | cons chunk chunks =>
    refine ⟨(front ++ chunk) :: chunks, by simp, isLength, ?_, ?_⟩
    · intro other member
      rcases mem_cons.mp member with rfl | later
      · exact append_ne_nil_of_right_ne_nil _ (filled chunk mem_cons_self)
      · exact filled other (mem_cons_of_mem _ later)
    · cases chunks with
      | nil => exact nofun
      | cons next chunks =>
        rw [dropLast_cons_of_ne_nil (cons_ne_nil _ _)] at reached ⊢
        intro other member
        rcases mem_cons.mp member with rfl | later
        · rw [totalSize_append]
          exact Nat.le_add_left_of_le (reached chunk mem_cons_self)
        · exact reached other (mem_cons_of_mem _ later)

lemma cuts_succ (positive : 0 < limit) :
    Cuts size limit (k + 2) items ↔ Cuts size limit (k + 1) (fill size limit 0 items).2 := by
  constructor
  · rintro ⟨chunks, rfl, isLength, filled, reached⟩
    cases chunks with
    | nil => cases isLength
    | cons chunk chunks =>
      have rest : chunks.length = k + 1 := by simpa using isLength
      have notLast : chunks ≠ [] := ne_nil_of_length_pos (by omega)
      rw [dropLast_cons_of_ne_nil notLast] at reached
      rcases fill_prefix 0 chunk chunks.flatten
        (by simpa using reached chunk mem_cons_self) with ⟨more, _, isLeft⟩
      rw [flatten_cons, isLeft]
      apply Cuts.append_left more (Nat.succ_pos k)
      exact ⟨chunks, rfl, rest, fun other member => filled other (mem_cons_of_mem _ member),
        fun other member => reached other (mem_cons_of_mem _ member)⟩
  · rintro ⟨chunks, isRest, isLength, filled, reached⟩
    have left : (fill size limit 0 items).2 ≠ [] := by
      rw [← isRest]
      intro empty
      have first : chunks.head? = chunks[0]? := head?_eq_getElem?
      rw [getElem?_eq_getElem (by omega : 0 < chunks.length)] at first
      have member := mem_of_mem_head? first
      exact filled _ member (flatten_eq_nil_iff.mp empty _ member)
    have notEmpty : items ≠ [] := by
      rintro rfl
      exact left rfl
    have notLast : chunks ≠ [] := ne_nil_of_length_pos (by omega)
    refine ⟨(fill size limit 0 items).1 :: chunks, ?_, by simp [isLength], ?_, ?_⟩
    · rw [flatten_cons, isRest, fill_append]
    · exact forall_mem_cons.mpr ⟨fill_ne_nil positive notEmpty, filled⟩
    · rw [dropLast_cons_of_ne_nil notLast]
      exact forall_mem_cons.mpr ⟨by simpa using fill_reaches 0 items left, reached⟩

lemma fillAll_ne_nil_iff (positive : 0 < limit) (notEmpty : items ≠ []) :
    (∀ chunk ∈ (fillAll size limit (k + 1) items).1, chunk ≠ []) ↔
      Cuts size limit (k + 1) items := by
  have first : (fill size limit 0 items).1 ≠ [] := fill_ne_nil positive notEmpty
  induction k generalizing items with
  | zero =>
    rw [cuts_one, fillAll]
    exact iff_of_true (by simpa [fillAll] using first) notEmpty
  | succ k ih =>
    rw [cuts_succ positive, fillAll_succ]
    dsimp only
    rw [forall_mem_cons, and_iff_right first]
    by_cases left : (fill size limit 0 items).2 = []
    · rw [left]
      refine iff_of_false (fun all => ?_) fun cuts => ?_
      · rw [fillAll] at all
        exact all [] mem_cons_self rfl
      · rcases cuts with ⟨chunks, empty, isLength, filled, _⟩
        cases chunks with
        | nil => cases isLength
        | cons chunk chunks =>
          exact filled chunk mem_cons_self
            (flatten_eq_nil_iff.mp empty chunk mem_cons_self)
    · exact ih left (fill_ne_nil positive left)

end OpenRoad.Lib
