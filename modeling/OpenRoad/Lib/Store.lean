import Mathlib.Tactic

/-! A store hands out identifiers page by page and takes freed ones back last in, first out.
This is what a paged object table is for; a table with an intrusive free list refines it. -/

namespace OpenRoad.Lib

open Function Option List

structure Store (α : Type) where
  objs : Nat → Option α
  free : List Nat
  pages : Nat

namespace Store

variable {α : Type} {size : Nat}

/-- The identifiers of a new page, lowest first; `0` is never handed out. -/
def freshIds (size page : Nat) : List Nat :=
  (List.range' (page * size) size).filter (· ≠ 0)

def empty : Store α := ⟨fun _ => none, [], 0⟩

def grow (size : Nat) (s : Store α) : Store α :=
  if s.free = [] then { s with free := freshIds size s.pages, pages := s.pages + 1 } else s

def create (size : Nat) (object : α) (s : Store α) : Option (Nat × Store α) :=
  match (s.grow size).free with
  | [] => none
  | id :: rest =>
    some (id, ⟨update s.objs id (some object), rest, (s.grow size).pages⟩)

def destroy (id : Nat) (s : Store α) : Option (Store α) :=
  if (s.objs id).isSome then some ⟨update s.objs id none, id :: s.free, s.pages⟩ else none

def replace (id : Nat) (object : α) (s : Store α) : Option (Store α) :=
  if (s.objs id).isSome then some ⟨update s.objs id (some object), s.free, s.pages⟩
  else none

def write (id : Nat) (object : α) (s : Store α) : Store α :=
  { s with objs := update s.objs id (some object) }

structure WellFormed (size : Nat) (s : Store α) : Prop where
  nodup : s.free.Nodup
  mem_free : ∀ id, id ∈ s.free ↔ id ≠ 0 ∧ id < s.pages * size ∧ s.objs id = none
  live_range : ∀ id, (s.objs id).isSome → id ≠ 0 ∧ id < s.pages * size

lemma mem_freshIds (size page id : Nat) :
    id ∈ freshIds size page ↔ id ≠ 0 ∧ page * size ≤ id ∧ id < page * size + size := by
  simp only [freshIds, mem_filter, List.mem_range'_1, decide_eq_true_eq]
  tauto

lemma freshIds_nodup (size page : Nat) : (freshIds size page).Nodup :=
  Nodup.filter _ nodup_range'

lemma freshIds_ne_nil (size page : Nat) (two : 2 ≤ size) : freshIds size page ≠ [] := by
  have member : page * size + 1 ∈ freshIds size page :=
    (mem_freshIds size page _).mpr ⟨by omega, by omega, by omega⟩
  exact ne_nil_of_mem member

lemma wellFormed_empty (size : Nat) : WellFormed size (empty : Store α) where
  nodup := nodup_nil
  mem_free := by intro id; simp [empty]
  live_range := by intro id live; simp [empty] at live

@[simp] lemma grow_objs (s : Store α) : (s.grow size).objs = s.objs := by
  unfold grow
  split <;> rfl

lemma grow_wellFormed (s : Store α) (wf : WellFormed size s) : WellFormed size (s.grow size) := by
  unfold grow
  split
  · rename_i exhausted
    have noneFree : ∀ id, ¬ (id ≠ 0 ∧ id < s.pages * size ∧ s.objs id = none) := by
      intro id free
      have member := (wf.mem_free id).mpr free
      rw [exhausted] at member
      cases member
    have bound : (s.pages + 1) * size = s.pages * size + size := Nat.succ_mul _ _
    refine ⟨freshIds_nodup _ _, ?_, ?_⟩
    · intro id
      simp only [mem_freshIds, bound]
      constructor
      · rintro ⟨nonzero, low, high⟩
        refine ⟨nonzero, high, ?_⟩
        cases value : s.objs id with
        | none => rfl
        | some object =>
          have live := (wf.live_range id (by simp [value])).2
          omega
      · rintro ⟨nonzero, high, dead⟩
        refine ⟨nonzero, ?_, high⟩
        by_contra low
        exact noneFree id ⟨nonzero, by omega, dead⟩
    · intro id live
      have range := wf.live_range id live
      simp only [bound]
      exact ⟨range.1, by omega⟩
  · exact wf

lemma grow_free_ne_nil (s : Store α) (two : 2 ≤ size) : (s.grow size).free ≠ [] := by
  unfold grow
  split
  · exact freshIds_ne_nil _ _ two
  · assumption

lemma create_isSome (object : α) (s : Store α) (two : 2 ≤ size) :
    ∃ id s', s.create size object = some (id, s') := by
  cases hfree : (s.grow size).free with
  | nil => exact absurd hfree (grow_free_ne_nil s two)
  | cons id rest =>
    refine ⟨id, ⟨update s.objs id (some object), rest, (s.grow size).pages⟩, ?_⟩
    simp [create, hfree]

variable {object : α} {s s' : Store α} {id : Nat}

lemma create_cases (created : s.create size object = some (id, s')) :
    ∃ rest, (s.grow size).free = id :: rest ∧
      s' = ⟨update s.objs id (some object), rest, (s.grow size).pages⟩ := by
  unfold create at created
  split at created
  · cases created
  · rename_i first rest hfree
    simp only [Option.some.injEq, Prod.mk.injEq] at created
    obtain ⟨rfl, rfl⟩ := created
    exact ⟨rest, hfree, rfl⟩

lemma destroy_isSome {s : Store α} {id : Nat} (live : (s.objs id).isSome) :
    ∃ s', s.destroy id = some s' := by
  rw [destroy, if_pos live]
  exact ⟨_, rfl⟩

lemma destroy_cases {s s' : Store α} {id : Nat} (destroyed : s.destroy id = some s') :
    (s.objs id).isSome ∧ s' = ⟨update s.objs id none, id :: s.free, s.pages⟩ := by
  unfold destroy at destroyed
  split at destroyed
  · rename_i live
    exact ⟨live, (Option.some.inj destroyed).symm⟩
  · cases destroyed

lemma create_objs (created : s.create size object = some (id, s')) :
    s'.objs = update s.objs id (some object) := by
  rcases create_cases created with ⟨rest, _, rfl⟩
  rfl

lemma destroy_objs {s s' : Store α} {id : Nat} (destroyed : s.destroy id = some s') :
    s'.objs = update s.objs id none := by
  rcases destroy_cases destroyed with ⟨_, rfl⟩
  rfl

lemma create_fresh (wf : WellFormed size s) (created : s.create size object = some (id, s')) :
    id ≠ 0 ∧ id < s'.pages * size ∧ s.objs id = none := by
  obtain ⟨rest, hfree, rfl⟩ := create_cases created
  have member := ((grow_wellFormed s wf).mem_free id).mp (by simp [hfree])
  simpa using member

lemma create_wellFormed (wf : WellFormed size s) (created : s.create size object = some (id, s')) :
    WellFormed size s' := by
  have fresh := create_fresh wf created
  obtain ⟨rest, hfree, rfl⟩ := create_cases created
  have grown := grow_wellFormed s wf
  have nodup := grown.nodup
  rw [hfree, nodup_cons] at nodup
  refine ⟨nodup.2, ?_, ?_⟩
  · intro other
    have old := grown.mem_free other
    rw [hfree, mem_cons] at old
    by_cases same : other = id
    · subst same
      simp [nodup.1]
    · simp only [update_of_ne same]
      simpa [same] using old
  · intro other live
    by_cases same : other = id
    · subst same
      exact ⟨fresh.1, fresh.2.1⟩
    · simp only [update_of_ne same] at live
      exact grown.live_range other (by simpa using live)

lemma destroy_wellFormed {s s' : Store α} {id : Nat} (wf : WellFormed size s)
    (destroyed : s.destroy id = some s') : WellFormed size s' := by
  obtain ⟨live, rfl⟩ := destroy_cases destroyed
  have range := wf.live_range id live
  have absent : id ∉ s.free := by
    intro member
    simp [((wf.mem_free id).mp member).2.2] at live
  refine ⟨nodup_cons.mpr ⟨absent, wf.nodup⟩, ?_, ?_⟩
  · intro other
    by_cases same : other = id
    · subst same
      simp [range]
    · simpa [same, update_of_ne same] using wf.mem_free other
  · intro other otherLive
    by_cases same : other = id
    · subst same
      simp at otherLive
    · simp only [update_of_ne same] at otherLive
      exact wf.live_range other otherLive

lemma replace_wellFormed (wf : WellFormed size s) (replaced : s.replace id object = some s') :
    WellFormed size s' := by
  unfold replace at replaced
  split at replaced
  · rename_i live
    obtain rfl := Option.some.inj replaced
    have isLive : s.objs id ≠ none := by
      intro dead
      simp [dead] at live
    refine ⟨wf.nodup, ?_, ?_⟩
    · intro other
      by_cases same : other = id
      · subst same
        simp [wf.mem_free, isLive]
      · simpa [update_of_ne same] using wf.mem_free other
    · intro other otherLive
      by_cases same : other = id
      · subst same
        exact wf.live_range other live
      · simp only [update_of_ne same] at otherLive
        exact wf.live_range other otherLive
  · cases replaced

lemma write_wellFormed {object old : α} {s : Store α} {id : Nat} (wf : WellFormed size s)
    (live : s.objs id = some old) : WellFormed size (s.write id object) := by
  have replaced : s.replace id object = some (s.write id object) := by
    rw [replace, if_pos (by rw [live]; rfl)]
    rfl
  exact replace_wellFormed wf replaced

/-- `s'` has the live identifiers of `s` and hands out the same ones for as long as `s` does not
grow. -/
structure Extends (s s' : Store α) : Prop where
  live : ∀ id, (s'.objs id).isSome = (s.objs id).isSome
  free : ∃ extra, s'.free = s.free ++ extra

lemma extends_refl (s : Store α) : Extends s s := ⟨fun _ => rfl, [], by simp⟩

lemma extends_trans {s₁ s₂ s₃ : Store α} (first : Extends s₁ s₂) (second : Extends s₂ s₃) :
    Extends s₁ s₃ := by
  obtain ⟨extra, hextra⟩ := first.free
  obtain ⟨more, hmore⟩ := second.free
  exact ⟨fun id => (second.live id).trans (first.live id), extra ++ more, by
    rw [hmore, hextra, append_assoc]⟩

lemma extends_replace {s s' : Store α} {id : Nat} {object : α}
    (replaced : s.replace id object = some s') : Extends s s' := by
  unfold replace at replaced
  split at replaced
  · rename_i live
    obtain rfl := Option.some.inj replaced
    refine ⟨?_, [], by simp⟩
    intro other
    by_cases same : other = id
    · subst same
      simp [live]
    · simp [same]
  · cases replaced

lemma undo_create {object : α} {s s₁ s₂ : Store α} {id : Nat} (wf : WellFormed size s)
    (created : s.create size object = some (id, s₁)) (ext : Extends s₁ s₂) :
    ∃ s₃, s₂.destroy id = some s₃ ∧ Extends s s₃ := by
  have fresh := create_fresh wf created
  obtain ⟨rest, hfree, rfl⟩ := create_cases created
  obtain ⟨extra, hextra⟩ := ext.free
  have live : (s₂.objs id).isSome := by
    rw [ext.live]
    simp
  refine ⟨⟨update s₂.objs id none, id :: s₂.free, s₂.pages⟩,
    by simp only [destroy, live, if_true], ?_, ?_⟩
  · intro other
    by_cases same : other = id
    · subst same
      simp [fresh.2.2]
    · have kept := ext.live other
      simp only [update_of_ne same] at kept ⊢
      exact kept
  · simp only at hextra ⊢
    rw [hextra, ← cons_append, ← hfree]
    unfold grow
    split
    · rename_i exhausted
      exact ⟨freshIds size s.pages ++ extra, by simp [exhausted]⟩
    · exact ⟨extra, rfl⟩

lemma undo_destroy (object : α) {s s₁ s₂ : Store α} {id : Nat}
    (destroyed : s.destroy id = some s₁) (ext : Extends s₁ s₂) :
    ∃ s₃, s₂.create size object = some (id, s₃) ∧ Extends s s₃ := by
  obtain ⟨live, rfl⟩ := destroy_cases destroyed
  obtain ⟨extra, hextra⟩ := ext.free
  have hfree : s₂.free = id :: (s.free ++ extra) := by simpa using hextra
  have notGrown : s₂.grow size = s₂ := by simp [grow, hfree]
  refine ⟨⟨update s₂.objs id (some object), s.free ++ extra, s₂.pages⟩,
    by simp [create, notGrown, hfree], ?_, ⟨extra, rfl⟩⟩
  intro other
  by_cases same : other = id
  · subst same
    simp [live]
  · have kept := ext.live other
    simp only [update_of_ne same] at kept ⊢
    exact kept

section Views

variable {β : Type} (view : α → β)

def map (s : Store α) : Store β := ⟨fun id => (s.objs id).map view, s.free, s.pages⟩

lemma create_map {object : α} {s s' : Store α} {id : Nat}
    (created : s.create size object = some (id, s')) :
    (s.map view).create size (view object) = some (id, s'.map view) := by
  have grown : (s.map view).grow size = (s.grow size).map view := by
    unfold grow
    by_cases exhausted : s.free = []
    · rw [if_pos exhausted, if_pos (show (s.map view).free = [] from exhausted)]
      rfl
    · rw [if_neg exhausted, if_neg (show ¬ (s.map view).free = [] from exhausted)]
  rcases create_cases created with ⟨rest, hfree, rfl⟩
  rw [create, grown]
  simp only [map, hfree, grow_objs, Option.some.injEq, Prod.mk.injEq, true_and, mk.injEq, and_true]
  funext other
  by_cases same : other = id
  · rw [same, update_self, update_self]
    rfl
  · rw [update_of_ne same, update_of_ne same]

lemma destroy_map {s s' : Store α} {id : Nat} (destroyed : s.destroy id = some s') :
    (s.map view).destroy id = some (s'.map view) := by
  rcases destroy_cases destroyed with ⟨live, rfl⟩
  rw [destroy, if_pos (by simpa [map] using live)]
  simp only [map, Option.some.injEq, mk.injEq, and_true]
  funext other
  by_cases same : other = id
  · rw [same, update_self, update_self]
    rfl
  · rw [update_of_ne same, update_of_ne same]

lemma map_write (id : Nat) (object : α) (s : Store α) :
    (s.write id object).map view = (s.map view).write id (view object) := by
  simp only [map, write, mk.injEq, and_true]
  funext other
  by_cases same : other = id
  · rw [same, update_self, update_self]
    rfl
  · rw [update_of_ne same, update_of_ne same]

lemma map_write_same {object old : α} {s : Store α} {id : Nat} (live : s.objs id = some old)
    (same : view object = view old) : (s.write id object).map view = s.map view := by
  have value : (s.map view).objs id = some (view old) := by
    simp only [map, live, map_some]
  rw [map_write, same, write, ← value, update_eq_self]

end Views

section Fields

variable {β : Type}

def modify (id : Nat) (f : α → α) (s : Store α) : Store α :=
  { s with objs := update s.objs id ((s.objs id).map f) }

/-- A field that holds an identifier; `0` where there is no object. -/
def field (get : α → Nat) (s : Store α) (id : Nat) : Nat := ((s.objs id).map get).getD 0

variable {s : Store α} {id : Nat} {object : α}

lemma modify_objs (id : Nat) (f : α → α) (s : Store α) (other : Nat) :
    (s.modify id f).objs other = if other = id then (s.objs other).map f else s.objs other := by
  change update s.objs id ((s.objs id).map f) other = _
  by_cases same : other = id
  · rw [if_pos same, same, update_self]
  · rw [if_neg same, update_of_ne same]

@[simp] lemma modify_isSome (id : Nat) (f : α → α) (s : Store α) (other : Nat) :
    ((s.modify id f).objs other).isSome = (s.objs other).isSome := by
  rw [modify_objs]
  split
  · exact isSome_map
  · rfl

lemma field_of_live (get : α → Nat) (live : s.objs id = some object) :
    s.field get id = get object := by
  rw [field, live]
  rfl

lemma field_of_dead (get : α → Nat) (dead : s.objs id = none) : s.field get id = 0 := by
  rw [field, dead]
  rfl

lemma field_live {get : α → Nat} (nonzero : s.field get id ≠ 0) :
    ∃ object, s.objs id = some object ∧ get object = s.field get id := by
  cases value : s.objs id with
  | none => exact absurd (field_of_dead get value) nonzero
  | some object => exact ⟨object, rfl, (field_of_live get value).symm⟩

lemma field_modify_same {get : α → Nat} {f : α → α} (same : ∀ object, get (f object) = get object) :
    (s.modify id f).field get = s.field get := by
  funext other
  rw [field, field, modify_objs]
  split
  · rw [Option.map_map]
    exact congrArg (fun view => (Option.map view (s.objs other)).getD 0) (funext same)
  · rfl

lemma field_modify {get : α → Nat} {f : α → α} (value : Nat) (sets : ∀ object, get (f object) = value)
    (live : (s.objs id).isSome) (other : Nat) :
    (s.modify id f).field get other = if other = id then value else s.field get other := by
  rw [field, field, modify_objs]
  by_cases same : other = id
  · rcases isSome_iff_exists.mp live with ⟨object, found⟩
    rw [if_pos same, if_pos same, same, found]
    exact sets object
  · rw [if_neg same, if_neg same]

lemma map_modify_same {view : α → β} {f : α → α} (same : ∀ object, view (f object) = view object) :
    (s.modify id f).map view = s.map view := by
  simp only [map, mk.injEq]
  refine ⟨?_, rfl, rfl⟩
  funext other
  rw [modify_objs]
  split
  · rw [Option.map_map]
    exact congrArg (fun view => Option.map view (s.objs other)) (funext same)
  · rfl

lemma map_isSome {view : α → β} {s' : Store α} (same : s'.map view = s.map view) (other : Nat) :
    (s'.objs other).isSome = (s.objs other).isSome := by
  have values := congrFun (congrArg objs same) other
  have both := congrArg Option.isSome values
  simpa only [map, isSome_map] using both

lemma map_live {view : α → β} {s' : Store α} (same : s'.map view = s.map view) {other : Nat}
    {value : α} (live : s'.objs other = some value) :
    ∃ old, s.objs other = some old ∧ view old = view value := by
  have values := congrFun (congrArg objs same) other
  simp only [map, live, map_some] at values
  rcases map_eq_some_iff.mp values.symm with ⟨old, found, shows⟩
  exact ⟨old, found, shows⟩

lemma wellFormed_map {view : α → β} {s' : Store α} (same : s'.map view = s.map view)
    (wf : WellFormed size s) : WellFormed size s' := by
  have frees : s'.free = s.free := congrArg (fun shown : Store β => shown.free) same
  have pages : s'.pages = s.pages := congrArg (fun shown : Store β => shown.pages) same
  have lives : ∀ other, (s'.objs other).isSome = (s.objs other).isSome := map_isSome same
  refine ⟨frees ▸ wf.nodup, ?_, ?_⟩
  · intro other
    have dead : s'.objs other = none ↔ s.objs other = none := by
      rw [← isNone_iff_eq_none, ← isNone_iff_eq_none, ← not_isSome,
        ← not_isSome, lives other]
    rw [frees, wf.mem_free other, pages, dead]
  · intro other live
    rw [pages]
    exact wf.live_range other (lives other ▸ live)

end Fields

end Store

end OpenRoad.Lib
