import OpenRoad.Viewer.NodeShapes

/-! Which polygons are cut into triangles that make up their area. -/

namespace OpenRoad.Viewer

open List Triangle

def wedge (p q : Vec2) : ℚ := p.1 * q.2 - p.2 * q.1

def pathArea : List Vec2 → ℚ
  | p :: q :: rest => wedge p q + pathArea (q :: rest)
  | _ => 0

def signedArea : List Vec2 → ℚ
  | [] => 0
  | p :: rest => pathArea (p :: rest ++ [p])

def polygonArea (poly : List Vec2) : ℚ := |signedArea poly| / 2

def Triangle.signed (tri : Triangle) : ℚ := cross tri.a tri.b tri.c

def Triangle.area (tri : Triangle) : ℚ := |tri.signed| / 2

lemma cross_eq (a b c : Vec2) : cross a b c = wedge a b + wedge b c - wedge a c := by
  rw [cross, wedge, wedge, wedge]
  ring

lemma pathArea_append (xs : List Vec2) (p : Vec2) (ys : List Vec2) :
    pathArea (xs ++ p :: ys) = pathArea (xs ++ [p]) + pathArea (p :: ys) := by
  induction xs with
  | nil => simp [pathArea]
  | cons x xs ih =>
    cases xs with
    | nil => simp [pathArea]
    | cons x' xs =>
      simp only [cons_append, pathArea] at ih ⊢
      rw [ih, add_assoc]

lemma signedArea_comm (xs ys : List Vec2) : signedArea (xs ++ ys) = signedArea (ys ++ xs) := by
  cases xs with
  | nil => rw [nil_append, append_nil]
  | cons x xs =>
    cases ys with
    | nil => rw [nil_append, append_nil]
    | cons y ys =>
      calc signedArea (x :: xs ++ y :: ys)
          = pathArea (x :: xs ++ y :: (ys ++ [x])) := by simp [signedArea]
        _ = pathArea (x :: xs ++ [y]) + pathArea (y :: ys ++ [x]) := pathArea_append ..
        _ = pathArea (y :: ys ++ [x]) + pathArea (x :: xs ++ [y]) := add_comm ..
        _ = pathArea (y :: ys ++ x :: (xs ++ [y])) := (pathArea_append ..).symm
        _ = signedArea (y :: ys ++ x :: xs) := by simp [signedArea]

lemma signedArea_cons (a b c : Vec2) (between : List Vec2) :
    signedArea (b :: c :: between ++ [a]) = signedArea (c :: between ++ [a]) + cross a b c := by
  have whole : signedArea (b :: c :: between ++ [a]) =
      wedge b c + (pathArea (c :: between ++ [a]) + wedge a b) := by
    calc signedArea (b :: c :: between ++ [a])
        = wedge b c + pathArea (c :: between ++ a :: [b]) := by simp [signedArea, pathArea]
      _ = _ := by
        rw [pathArea_append]
        simp [pathArea]
  have rest : signedArea (c :: between ++ [a]) = pathArea (c :: between ++ [a]) + wedge a c := by
    calc signedArea (c :: between ++ [a]) = pathArea (c :: between ++ a :: [c]) := by
          simp [signedArea]
      _ = _ := by
        rw [pathArea_append]
        simp [pathArea]
  rw [whole, rest, cross_eq]
  ring

variable {pts : List Vec2}

lemma getD_around {i k : Nat} (inRange : i < pts.length) :
    (pts.drop (i + 1) ++ pts.take i).getD k 0 =
      if k < pts.length - (i + 1) then pts.getD (i + 1 + k) 0
      else if k < pts.length - 1 then pts.getD (k - (pts.length - (i + 1))) 0 else 0 := by
  simp only [getD_eq_getElem?_getD, getElem?_append, length_drop,
    getElem?_drop, getElem?_take]
  split
  · rfl
  · by_cases inTake : k < pts.length - 1
    · rw [if_pos (by omega), if_pos inTake]
    · rw [if_neg (by omega), if_neg inTake]
      rfl

lemma exists_ends (large : 2 ≤ pts.length) :
    ∃ between, pts = pts.getD 0 0 :: between ++ [pts.getD (pts.length - 1) 0] := by
  cases pts with
  | nil => simp at large
  | cons c rest =>
    rcases eq_nil_or_concat rest with isNil | ⟨between, a, isRest⟩
    · rw [isNil] at large
      simp at large
    · refine ⟨between, ?_⟩
      rw [isRest]
      simp

lemma signedArea_eraseIdx {i : Nat} (large : 3 ≤ pts.length) (inRange : i < pts.length) :
    signedArea pts = signedArea (pts.eraseIdx i) +
      cross (pts.getD (prevIndex pts.length i) 0) (pts.getD i 0)
        (pts.getD (nextIndex pts.length i) 0) := by
  have around : (pts.drop (i + 1) ++ pts.take i).length = pts.length - 1 := by
    simp only [length_append, length_drop, length_take]
    omega
  rcases @exists_ends (pts.drop (i + 1) ++ pts.take i) (by omega) with ⟨between, isAround⟩
  have first : (pts.drop (i + 1) ++ pts.take i).getD 0 0 = pts.getD (nextIndex pts.length i) 0 := by
    rw [getD_around inRange, nextIndex]
    by_cases isLast : pts.length ≤ i + 1
    · rw [if_neg (by omega), if_pos (by omega), if_pos isLast, Nat.zero_sub]
    · rw [if_pos (by omega), if_neg isLast, Nat.add_zero]
  have last : (pts.drop (i + 1) ++ pts.take i).getD
      ((pts.drop (i + 1) ++ pts.take i).length - 1) 0 = pts.getD (prevIndex pts.length i) 0 := by
    rw [around, getD_around inRange, prevIndex]
    by_cases isFirst : i = 0
    · rw [if_pos (by omega), if_pos isFirst]
      congr 1
      omega
    · rw [if_neg (by omega), if_pos (by omega), if_neg isFirst]
      congr 1
      omega
  rw [first, last] at isAround
  calc signedArea pts
      = signedArea (pts.take i ++ pts.drop i) := by rw [take_append_drop]
    _ = signedArea (pts.drop i ++ pts.take i) := signedArea_comm ..
    _ = signedArea (pts.getD i 0 :: (pts.drop (i + 1) ++ pts.take i)) := by
      rw [drop_eq_getElem_cons inRange, getD_eq_getElem _ _ inRange, cons_append]
    _ = signedArea (pts.drop (i + 1) ++ pts.take i) +
        cross (pts.getD (prevIndex pts.length i) 0) (pts.getD i 0)
          (pts.getD (nextIndex pts.length i) 0) := by
      rw [isAround]
      exact signedArea_cons ..
    _ = _ := by rw [signedArea_comm, eraseIdx_eq_take_drop_succ]

section

variable {poly : List Vec2} {idx : List Nat}

def remaining (poly : List Vec2) (idx : List Nat) : List Vec2 := idx.map fun k => poly.getD k 0

lemma remaining_range (poly : List Vec2) : remaining poly (List.range poly.length) = poly := by
  apply ext_getElem
  · simp [remaining]
  · intro k inRange _
    simp only [remaining, getElem_map, getElem_range]
    exact getD_eq_getElem ..

lemma vertexAt_eq {p : Nat} (inRange : p < idx.length) :
    vertexAt poly idx p = (remaining poly idx).getD p 0 := by
  have inMap : p < (remaining poly idx).length := by
    rw [remaining, length_map]
    exact inRange
  rw [vertexAt, getD_eq_getElem _ _ inRange, getD_eq_getElem _ _ inMap]
  simp only [remaining, getElem_map]

lemma signedArea_clip {i : Nat} (large : 3 ≤ idx.length) (inRange : i < idx.length) :
    signedArea (remaining poly idx) =
      signedArea (remaining poly (idx.eraseIdx i)) + (triangleAt poly idx i).signed := by
  have length : (remaining poly idx).length = idx.length := length_map _
  rw [@signedArea_eraseIdx (remaining poly idx) i (by omega) (by omega), length, signed,
    triangleAt]
  dsimp only
  rw [vertexAt_eq (prevIndex_lt inRange), vertexAt_eq inRange, vertexAt_eq (nextIndex_lt inRange)]
  congr 2
  rw [remaining, remaining, eraseIdx_map]

lemma signedArea_three (three : idx.length = 3) : signedArea (remaining poly idx) =
    cross (vertexAt poly idx 0) (vertexAt poly idx 1) (vertexAt poly idx 2) := by
  rcases length_eq_three.mp three with ⟨a, b, c, isIdx⟩
  rw [isIdx]
  simp only [remaining, vertexAt, map_cons, map_nil, signedArea, pathArea, cross, wedge,
    cons_append, nil_append, getD_cons_zero, getD_cons_succ]
  ring

end

section

variable {poly : List Vec2}

def FirstEar (poly : List Vec2) (idx : List Nat) (i p : Nat) : Prop :=
  ∃ k < idx.length, p = (i + k) % idx.length ∧ isEar poly idx p = true ∧
    ∀ j < k, isEar poly idx ((i + j) % idx.length) = false

def Clips (poly : List Vec2) (good : List Nat → Prop) : Nat → Nat → List Nat → Prop
  | 0, _, idx => good idx
  | more + 1, i, idx => ∃ p, FirstEar poly idx i p ∧ Clips poly good more (p - 1) (idx.eraseIdx p)

lemma Clips.imp {good good' : List Nat → Prop} (weaker : ∀ idx, good idx → good' idx)
    (more : Nat) : ∀ (i : Nat) (idx : List Nat), Clips poly good more i idx →
      Clips poly good' more i idx := by
  induction more with
  | zero => exact fun _ idx clips => weaker idx clips
  | succ more ih =>
    rintro i idx ⟨p, isFirst, clips⟩
    exact ⟨p, isFirst, ih _ _ clips⟩

variable {idx : List Nat} {p : Nat}

lemma FirstEar.lt {i : Nat} (isFirst : FirstEar poly idx i p) : p < idx.length := by
  rcases isFirst with ⟨k, inRange, isPlace, _⟩
  rw [isPlace]
  exact Nat.mod_lt _ (by omega)

lemma FirstEar.next {i : Nat} (inRange : i < idx.length) (notEar : isEar poly idx i = false)
    (isFirst : FirstEar poly idx ((i + 1) % idx.length) p) : FirstEar poly idx i p := by
  rcases isFirst with ⟨k, less, isPlace, ear, none⟩
  rw [Nat.mod_add_mod, Nat.add_assoc, Nat.add_comm 1 k] at isPlace
  by_cases around : k + 1 = idx.length
  · rw [around, Nat.add_mod_right, Nat.mod_eq_of_lt inRange] at isPlace
    rw [isPlace, notEar] at ear
    cases ear
  · refine ⟨k + 1, by omega, isPlace, ear, ?_⟩
    intro j before
    cases j with
    | zero =>
      rw [Nat.add_zero, Nat.mod_eq_of_lt inRange]
      exact notEar
    | succ j =>
      have earlier := none j (by omega)
      rw [Nat.mod_add_mod, Nat.add_assoc, Nat.add_comm 1 j] at earlier
      exact earlier

lemma clip_to_ear (more : 3 < idx.length) (fuel : Nat) (tris : List Triangle) (k : Nat) :
    ∀ i < idx.length, isEar poly idx ((i + k) % idx.length) = true →
      (∀ j < k, isEar poly idx ((i + j) % idx.length) = false) →
      clip poly (fuel + k + 1) i idx tris =
        clip poly fuel ((i + k) % idx.length - 1) (idx.eraseIdx ((i + k) % idx.length))
          (tris ++ [triangleAt poly idx ((i + k) % idx.length)]) := by
  induction k with
  | zero =>
    intro i inRange ear _
    simp only [Nat.add_zero, Nat.mod_eq_of_lt inRange] at ear ⊢
    rw [clip, if_pos ⟨more, by omega⟩, if_pos ear]
  | succ k ih =>
    intro i inRange ear none
    have notEar := none 0 (Nat.succ_pos k)
    rw [Nat.add_zero, Nat.mod_eq_of_lt inRange] at notEar
    have turn : ∀ j, ((i + 1) % idx.length + j) % idx.length = (i + (j + 1)) % idx.length := by
      intro j
      rw [Nat.mod_add_mod, Nat.add_assoc, Nat.add_comm 1 j]
    have later := ih ((i + 1) % idx.length) (Nat.mod_lt _ (by omega)) (by rw [turn]; exact ear)
      (fun j before => by rw [turn]; exact none (j + 1) (by omega))
    rw [turn] at later
    rw [← later, clip, if_pos ⟨more, by omega⟩, if_neg (by rw [notEar]; exact Bool.false_ne_true)]
    rfl

lemma clip_of_clips {good : List Nat → Prop} (more : Nat) :
    ∀ (i : Nat) (idx : List Nat) (tris : List Triangle), idx.length = more + 3 →
      i < idx.length → Clips poly good more i idx →
      ∃ fuel rest, clip poly fuel i idx tris = some rest ∧ good rest.1 := by
  induction more with
  | zero =>
    intro i idx tris three _ isGood
    refine ⟨1, (idx, tris), ?_, isGood⟩
    rw [clip, if_neg (by omega)]
  | succ more ih =>
    rintro i idx tris count inRange ⟨p, isFirst, clips⟩
    have place := isFirst.lt
    have shorter : (idx.eraseIdx p).length = idx.length - 1 := length_eraseIdx_of_lt place
    rcases ih (p - 1) (idx.eraseIdx p) (tris ++ [triangleAt poly idx p]) (by omega) (by omega)
      clips with ⟨fuel, rest, ends, isGood⟩
    rcases isFirst with ⟨k, _, isPlace, ear, none⟩
    rw [isPlace] at ear ends
    refine ⟨fuel + k + 1, rest, ?_, isGood⟩
    rw [clip_to_ear (by omega) fuel tris k i inRange ear none]
    exact ends

variable {rest : List Nat × List Triangle}

lemma clips_of_clip {fuel : Nat} :
    ∀ {i : Nat} {idx : List Nat} {tris : List Triangle}, 3 ≤ idx.length → i < idx.length →
      clip poly fuel i idx tris = some rest →
      Clips poly (· = rest.1) (idx.length - 3) i idx := by
  induction fuel with
  | zero =>
    intro i idx tris _ _ ends
    rw [clip] at ends
    cases ends
  | succ fuel ih =>
    intro i idx tris large inRange ends
    rw [clip] at ends
    split at ends
    · rename_i isMore
      have count : idx.length - 3 = idx.length - 4 + 1 := by omega
      split at ends
      · rename_i ear
        have shorter : (idx.eraseIdx i).length = idx.length - 1 :=
          length_eraseIdx_of_lt inRange
        have clips := ih (by omega) (by omega) ends
        rw [shorter] at clips
        rw [count]
        refine ⟨i, ⟨0, by omega, ?_, ear, fun j none => absurd none (Nat.not_lt_zero j)⟩, clips⟩
        rw [Nat.add_zero, Nat.mod_eq_of_lt inRange]
      · rename_i notEar
        have clips := ih large (Nat.mod_lt _ (by omega)) ends
        rw [count] at clips ⊢
        rcases clips with ⟨p, isFirst, clips⟩
        exact ⟨p, isFirst.next inRange (Bool.eq_false_iff.mpr notEar), clips⟩
    · rw [Option.some.injEq] at ends
      have three : idx.length - 3 = 0 := by omega
      rw [three, ← ends]
      rfl

lemma clip_parts {fuel : Nat} :
    ∀ {i : Nat} {idx : List Nat} {tris : List Triangle}, 3 ≤ idx.length → i < idx.length →
      clip poly fuel i idx tris = some rest →
      rest.1.length = 3 ∧ rest.2.length + 3 = tris.length + idx.length ∧
      (rest.2.map signed).sum + signedArea (remaining poly rest.1) =
        (tris.map signed).sum + signedArea (remaining poly idx) ∧
      ((∀ tri ∈ tris, tri.signed < 0) → ∀ tri ∈ rest.2, tri.signed < 0) := by
  induction fuel with
  | zero =>
    intro i idx tris _ _ ends
    rw [clip] at ends
    cases ends
  | succ fuel ih =>
    intro i idx tris large inRange ends
    rw [clip] at ends
    split at ends
    · split at ends
      · rename_i isMore ear
        have shorter : (idx.eraseIdx i).length = idx.length - 1 :=
          length_eraseIdx_of_lt inRange
        have clockwise : (triangleAt poly idx i).signed < 0 := by
          rw [isEar, decide_eq_true_eq] at ear
          exact ear.1
        rcases ih (by omega) (by omega) ends with ⟨three, count, areas, negative⟩
        refine ⟨three, ?_, ?_, ?_⟩
        · rw [count, length_append, length_singleton]
          omega
        · rw [areas, signedArea_clip large inRange, map_append, sum_append,
            map_singleton, sum_singleton]
          ring
        · intro before
          apply negative
          intro tri member
          rcases mem_append.mp member with earlier | last
          · exact before tri earlier
          · rw [mem_singleton.mp last]
            exact clockwise
      · exact ih large (Nat.mod_lt _ (by omega)) ends
    · rename_i isLast
      rw [Option.some.injEq] at ends
      rw [← ends]
      exact ⟨by dsimp only; omega, by dsimp only; omega, rfl, fun before => before⟩

def Triangulates (poly : List Vec2) : Prop :=
  ∃ fuel tris, triangulatePolygon poly fuel = some tris ∧ tris.length = poly.length - 2 ∧
    (∀ tri ∈ tris, tri.CornersIn poly) ∧ (tris.map Triangle.area).sum = polygonArea poly

def lastTriangle (poly : List Vec2) (idx : List Nat) : Triangle :=
  ⟨vertexAt poly idx 0, vertexAt poly idx 1, vertexAt poly idx 2⟩

def FindsEars (poly : List Vec2) (good : List Nat → Prop) : Prop :=
  Clips poly good (poly.length - 3) 0 (List.range poly.length)

variable {tris : List Triangle}

lemma sum_area_clockwise (clockwise : ∀ tri ∈ tris, tri.signed < 0) :
    (tris.map area).sum = -(tris.map signed).sum / 2 := by
  induction tris with
  | nil => simp
  | cons tri tris ih =>
    have first := clockwise tri mem_cons_self
    rw [map_cons, map_cons, sum_cons, sum_cons,
      ih fun later member => clockwise later (mem_cons_of_mem tri member), area,
      abs_of_neg first]
    ring

lemma sum_signed_neg (clockwise : ∀ tri ∈ tris, tri.signed < 0) (notEmpty : tris ≠ []) :
    (tris.map signed).sum < 0 := by
  induction tris with
  | nil => exact absurd rfl notEmpty
  | cons tri tris ih =>
    have first := clockwise tri mem_cons_self
    rw [map_cons, sum_cons]
    cases tris with
    | nil =>
      rw [map_nil, sum_nil, add_zero]
      exact first
    | cons next tris =>
      have rest := ih (fun later member => clockwise later (mem_cons_of_mem tri member))
        (cons_ne_nil _ _)
      exact add_neg first rest

lemma areas_add_up_iff (clockwise : ∀ tri ∈ tris, tri.signed < 0) (last : ℚ) :
    (tris.map area).sum + |last| / 2 =
      |(tris.map signed).sum + last| / 2 ↔ tris = [] ∨ last ≤ 0 := by
  rw [sum_area_clockwise clockwise]
  by_cases isEmpty : tris = []
  · rw [isEmpty, map_nil, sum_nil]
    simp
  have negative := sum_signed_neg clockwise isEmpty
  by_cases down : last ≤ 0
  · rw [abs_of_nonpos down, abs_of_nonpos (by linarith)]
    exact iff_of_true (by ring) (.inr down)
  · have positive := not_le.mp down
    rw [abs_of_pos positive]
    apply iff_of_false _ (by simp [isEmpty, down])
    intro same
    have less : |(tris.map signed).sum + last| < -(tris.map signed).sum + last :=
      abs_lt.mpr ⟨by linarith, by linarith⟩
    linarith

lemma triangulatePolygon_iff {fuel : Nat} (large : 3 ≤ poly.length) :
    triangulatePolygon poly fuel = some tris ↔ ∃ rest,
      clip poly fuel 0 (List.range poly.length) [] = some rest ∧
      tris = rest.2 ++ [lastTriangle poly rest.1] := by
  rw [triangulatePolygon, if_neg (not_lt.mpr large), Option.map_eq_some_iff]
  have range : 3 ≤ (List.range poly.length).length := by
    rw [length_range]
    exact large
  constructor
  · rintro ⟨rest, ends, isTris⟩
    rw [if_pos (clip_parts range (by omega) ends).1] at isTris
    exact ⟨rest, ends, isTris.symm⟩
  · rintro ⟨rest, ends, isTris⟩
    refine ⟨rest, ends, ?_⟩
    rw [if_pos (clip_parts range (by omega) ends).1]
    exact isTris.symm

lemma triangulation_ends_iff (poly : List Vec2) :
    (∃ fuel, (triangulatePolygon poly fuel).isSome) ↔
      poly.length < 3 ∨ FindsEars poly fun _ => True := by
  by_cases small : poly.length < 3
  · have ends : triangulatePolygon poly 0 = some [] := by rw [triangulatePolygon, if_pos small]
    exact ⟨fun _ => .inl small, fun _ => ⟨0, Option.isSome_iff_exists.mpr ⟨_, ends⟩⟩⟩
  have large := not_lt.mp small
  have length : (List.range poly.length).length = poly.length := length_range
  rw [or_iff_right small]
  constructor
  · rintro ⟨fuel, ends⟩
    rcases Option.isSome_iff_exists.mp ends with ⟨tris, isTris⟩
    rcases (triangulatePolygon_iff large).mp isTris with ⟨rest, clipped, _⟩
    have clips := clips_of_clip (by omega) (by omega) clipped
    rw [length] at clips
    exact Clips.imp (fun _ _ => trivial) _ _ _ clips
  · intro finds
    rcases clip_of_clips _ 0 (List.range poly.length) [] (by omega) (by omega) finds with
      ⟨fuel, rest, clipped, _⟩
    refine ⟨fuel, ?_⟩
    rw [(triangulatePolygon_iff large).mpr ⟨rest, clipped, rfl⟩]
    rfl

lemma clip_adds_up_iff (large : 3 ≤ poly.length) {fuel : Nat}
    (clipped : clip poly fuel 0 (List.range poly.length) [] = some rest) :
    (rest.2 ++ [lastTriangle poly rest.1]).length = poly.length - 2 ∧
      (((rest.2 ++ [lastTriangle poly rest.1]).map area).sum = polygonArea poly ↔
        poly.length = 3 ∨ (lastTriangle poly rest.1).signed ≤ 0) := by
  have length : (List.range poly.length).length = poly.length := length_range
  rcases clip_parts (by omega) (by omega) clipped with ⟨three, count, areas, clockwise⟩
  rw [length_nil, Nat.zero_add, length] at count
  rw [map_nil, sum_nil, zero_add, remaining_range, signedArea_three three] at areas
  constructor
  · rw [length_append, length_singleton]
    omega
  · have empty : rest.2 = [] ↔ poly.length = 3 := by
      rw [← length_eq_zero_iff]
      omega
    rw [map_append, sum_append, map_singleton, sum_singleton, polygonArea,
      ← areas, ← empty]
    exact areas_add_up_iff (clockwise fun tri member => absurd member not_mem_nil) _

lemma triangulates_iff (large : 3 ≤ poly.length) : Triangulates poly ↔
      FindsEars poly fun idx => poly.length = 3 ∨ (lastTriangle poly idx).signed ≤ 0 := by
  have length : (List.range poly.length).length = poly.length := length_range
  constructor
  · rintro ⟨fuel, tris, isTris, _, _, area⟩
    rcases (triangulatePolygon_iff large).mp isTris with ⟨rest, clipped, isTris'⟩
    have clips := clips_of_clip (by omega) (by omega) clipped
    rw [length] at clips
    rw [isTris'] at area
    refine Clips.imp ?_ _ _ _ clips
    intro idx isRest
    rw [isRest]
    exact (clip_adds_up_iff large clipped).2.mp area
  · intro finds
    rcases clip_of_clips _ 0 (List.range poly.length) [] (by omega) (by omega) finds with
      ⟨fuel, rest, clipped, isGood⟩
    have isTris := (triangulatePolygon_iff large).mpr ⟨rest, clipped, rfl⟩
    exact ⟨fuel, _, isTris, (clip_adds_up_iff large clipped).1,
      (triangulatePolygon_corners large isTris).2, (clip_adds_up_iff large clipped).2.mpr isGood⟩

lemma not_triangulates_of_counterclockwise (large : 3 < poly.length)
    (turns : 0 < signedArea poly) : ¬ Triangulates poly := by
  rintro ⟨fuel, tris, isTris, _, _, area⟩
  have length : (List.range poly.length).length = poly.length := length_range
  rcases (triangulatePolygon_iff large.le).mp isTris with ⟨rest, clipped, isTris'⟩
  rw [isTris'] at area
  rcases (clip_adds_up_iff large.le clipped).2.mp area with three | down
  · omega
  · rcases clip_parts (by omega) (by omega) clipped with ⟨three, count, areas, clockwise⟩
    rw [length_nil, Nat.zero_add, length] at count
    rw [map_nil, sum_nil, zero_add, remaining_range, signedArea_three three] at areas
    have notEmpty : rest.2 ≠ [] := by
      intro isEmpty
      rw [isEmpty, length_nil] at count
      omega
    have negative := sum_signed_neg (clockwise fun tri member => absurd member not_mem_nil)
      notEmpty
    rw [signed, lastTriangle] at down
    linarith

def ConvexClockwise (pts : List Vec2) : Prop :=
  ∀ a b c, a < b → b < c → c < pts.length → cross (pts.getD a 0) (pts.getD b 0) (pts.getD c 0) < 0

lemma cross_turn (a b c : Vec2) : cross b c a = cross a b c := by
  rw [cross, cross]
  ring

lemma not_strictlyInside {va vb vc pt : Vec2} (clockwise : cross va vb vc < 0)
    (beyond : cross va vc pt < 0) : strictlyInside va vb vc pt = false := by
  have base : (va.2 - vc.2) * (vb.1 - vc.1) + (vc.1 - va.1) * (vb.2 - vc.2) = -cross va vb vc := by
    rw [cross]
    ring
  have height : (va.2 - vc.2) * (pt.1 - vc.1) + (vc.1 - va.1) * (pt.2 - vc.2) = cross va vc pt := by
    rw [cross]
    ring
  rw [strictlyInside, base, height, decide_eq_false_iff_not]
  intro inside
  exact absurd inside.1 (not_lt.mpr (div_neg_of_neg_of_pos beyond (neg_pos.mpr clockwise)).le)

lemma ConvexClockwise.eraseIdx {pts : List Vec2} (convex : ConvexClockwise pts) (i : Nat) :
    ConvexClockwise (pts.eraseIdx i) := by
  have place : ∀ k, (pts.eraseIdx i).getD k 0 = pts.getD (if k < i then k else k + 1) 0 := by
    intro k
    rw [getD_eq_getElem?_getD, getElem?_eraseIdx, getD_eq_getElem?_getD]
    split
    · rfl
    · rfl
  intro a b c first second inRange
  have length := @length_eraseIdx _ pts i
  rw [place, place, place]
  apply convex
  · split <;> split <;> omega
  · split <;> split <;> omega
  · split at length <;> split <;> omega

lemma isEar_of_convex (convex : ConvexClockwise (remaining poly idx)) (large : 3 < idx.length)
    (inRange : p < idx.length) : isEar poly idx p = true := by
  have length : (remaining poly idx).length = idx.length := length_map _
  have turns : ∀ a b c, a < b → b < c → c < idx.length →
      cross (vertexAt poly idx a) (vertexAt poly idx b) (vertexAt poly idx c) < 0 := by
    intro a b c first second third
    rw [vertexAt_eq (by omega), vertexAt_eq (by omega), vertexAt_eq third]
    exact convex a b c first second (by omega)
  have ear : ∀ a c, a = prevIndex idx.length p → c = nextIndex idx.length p →
      cross (vertexAt poly idx a) (vertexAt poly idx p) (vertexAt poly idx c) < 0 ∧
      ∀ i < idx.length, i ≠ a → i ≠ p → i ≠ c →
        cross (vertexAt poly idx a) (vertexAt poly idx c) (vertexAt poly idx i) < 0 := by
    intro a c isPrev isNext
    rw [prevIndex] at isPrev
    rw [nextIndex] at isNext
    by_cases isFirst : p = 0
    · rw [if_pos isFirst] at isPrev
      rw [if_neg (by omega)] at isNext
      constructor
      · rw [← cross_turn]
        exact turns p c a (by omega) (by omega) (by omega)
      · intro i less _ _ _
        rw [← cross_turn]
        exact turns c i a (by omega) (by omega) (by omega)
    · rw [if_neg isFirst] at isPrev
      by_cases isLast : idx.length ≤ p + 1
      · rw [if_pos isLast] at isNext
        constructor
        · rw [← cross_turn, ← cross_turn]
          exact turns c a p (by omega) (by omega) (by omega)
        · intro i less _ _ _
          rw [← cross_turn]
          exact turns c i a (by omega) (by omega) (by omega)
      · rw [if_neg isLast] at isNext
        constructor
        · exact turns a p c (by omega) (by omega) (by omega)
        · intro i less _ _ _
          by_cases before : i < a
          · rw [← cross_turn, ← cross_turn]
            exact turns i a c (by omega) (by omega) (by omega)
          · exact turns a c i (by omega) (by omega) (by omega)
  rcases ear _ _ rfl rfl with ⟨clockwise, beyond⟩
  rw [isEar, decide_eq_true_eq]
  exact ⟨clockwise, fun i less notPrev notEar notNext =>
    not_strictlyInside clockwise (beyond i less notPrev notEar notNext)⟩

lemma clips_of_convex (more : Nat) : ∀ (i : Nat) (idx : List Nat), idx.length = more + 3 →
    i < idx.length → ConvexClockwise (remaining poly idx) →
    Clips poly (fun idx => (lastTriangle poly idx).signed ≤ 0) more i idx := by
  induction more with
  | zero =>
    intro i idx three _ convex
    have length : (remaining poly idx).length = idx.length := length_map _
    have last := convex 0 1 2 (by omega) (by omega) (by omega)
    rw [← vertexAt_eq (by omega), ← vertexAt_eq (by omega), ← vertexAt_eq (by omega)] at last
    exact last.le
  | succ more ih =>
    intro i idx count inRange convex
    have shorter : (idx.eraseIdx i).length = idx.length - 1 := length_eraseIdx_of_lt inRange
    refine ⟨i, ⟨0, by omega, ?_, isEar_of_convex convex (by omega) inRange, ?_⟩, ?_⟩
    · rw [Nat.add_zero, Nat.mod_eq_of_lt inRange]
    · exact fun j none => absurd none (Nat.not_lt_zero j)
    · apply ih _ _ (by omega) (by omega)
      have erased := convex.eraseIdx i
      rw [remaining, eraseIdx_map] at erased
      exact erased

lemma triangulates_of_convex (large : 3 ≤ poly.length) (convex : ConvexClockwise poly) :
    Triangulates poly := by
  have length : (List.range poly.length).length = poly.length := length_range
  rw [triangulates_iff large]
  refine Clips.imp (fun _ down => .inr down) _ _ _ (clips_of_convex _ 0 _ (by omega) (by omega) ?_)
  rw [remaining_range]
  exact convex

/-- The cut is right if and only if it ends with ears and the triangle left is clockwise. -/
theorem triangulation_exact_iff (poly : List Vec2) :
    ((∃ fuel, (triangulatePolygon poly fuel).isSome) ↔
      poly.length < 3 ∨ FindsEars poly fun _ => True) ∧
    (3 ≤ poly.length → (Triangulates poly ↔
      FindsEars poly fun idx => poly.length = 3 ∨ (lastTriangle poly idx).signed ≤ 0)) ∧
    (3 < poly.length → 0 < signedArea poly → ¬ Triangulates poly) ∧
    (3 ≤ poly.length → ConvexClockwise poly → Triangulates poly) :=
  ⟨triangulation_ends_iff poly, triangulates_iff, not_triangulates_of_counterclockwise,
    triangulates_of_convex⟩

end

def squareCorners : List Vec2 := [(0, 0), (1, 0), (1, 1), (0, 1)]

/-- The square, walked clockwise, is convex. -/
example : ConvexClockwise squareCorners.reverse := by
  have turns : ∀ c < 4, ∀ b < c, ∀ a < b, cross (squareCorners.reverse.getD a 0)
      (squareCorners.reverse.getD b 0) (squareCorners.reverse.getD c 0) < 0 := by
    with_unfolding_all decide
  exact fun a b c first second inside => turns c inside b second a first

lemma clip_stuck {poly : List Vec2} {idx : List Nat} (more : 3 < idx.length)
    (noEar : ∀ p < idx.length, isEar poly idx p = false) (tris : List Triangle) (fuel : Nat) :
    ∀ i < idx.length, clip poly fuel i idx tris = none := by
  induction fuel with
  | zero => exact fun _ _ => rfl
  | succ fuel ih =>
    intro i inRange
    rw [clip, if_pos ⟨more, by omega⟩, if_neg (by rw [noEar i inRange]; exact Bool.false_ne_true)]
    exact ih _ (Nat.mod_lt _ (by omega))

/-- The corners of a square the other way round are clipped for ever. -/
theorem square_never_triangulated :
    (∀ fuel, triangulatePolygon squareCorners fuel = none) ∧ signedArea squareCorners = 2 := by
  constructor
  · intro fuel
    have noEar : ∀ p < 4, isEar squareCorners [0, 1, 2, 3] p = false := by with_unfolding_all decide
    rw [triangulatePolygon, if_neg (by decide)]
    have stuck : clip squareCorners fuel 0 (List.range 4) [] = none :=
      @clip_stuck squareCorners (List.range 4) (by decide) noEar [] fuel 0 (by decide)
    exact congrArg (Option.map _) stuck
  · with_unfolding_all decide

end OpenRoad.Viewer
