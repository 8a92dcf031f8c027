import Mathlib.Data.List.Nodup

/-! Lists whose elements are related place by place. -/

namespace OpenRoad.Lib

open List

variable {α β γ : Type*} {R : α → β → Prop} {items : List α} {others : List β}

section

variable (all : Forall₂ R items others)
include all

lemma forall₂_right {other : β} (member : other ∈ others) :
    ∃ item ∈ items, R item other := by
  induction all with
  | nil => cases member
  | @cons item first items others holds _ ih =>
    rcases mem_cons.mp member with rfl | later
    · exact ⟨item, mem_cons_self, holds⟩
    · rcases ih later with ⟨found, inItems, holdsFound⟩
      exact ⟨found, mem_cons_of_mem item inItems, holdsFound⟩

lemma forall₂_left {item : α} (member : item ∈ items) :
    ∃ other ∈ others, R item other := forall₂_right all.flip member

lemma forall₂_weaken {S : α → β → Prop}
    (each : ∀ item ∈ items, ∀ other, R item other → S item other) :
    Forall₂ S items others :=
  ((forall₂_and_left _ _).mpr ⟨each, all⟩).imp fun _ other both => both.1 other both.2

lemma forall₂_nodup {key : β → γ} (nodup : (others.map key).Nodup)
    (same : ∀ item other other', R item other → R item other' → key other = key other') :
    items.Nodup := by
  induction all with
  | nil => exact nodup_nil
  | @cons item other items others first rest ih =>
    rcases nodup_cons.mp nodup with ⟨apart, nodupRest⟩
    refine nodup_cons.mpr ⟨?_, ih nodupRest⟩
    intro member
    rcases forall₂_left rest member with ⟨other', inOthers, holds⟩
    rw [same item other other' first holds] at apart
    exact apart (mem_map_of_mem inOthers)

lemma forall₂_unique (nodup : others.Nodup)
    (same : ∀ item other other', R item other → R item other' → other = other') {a b : α}
    {other : β} (inItems : a ∈ items) (inItems' : b ∈ items) (holds : R a other)
    (holds' : R b other) : a = b := by
  induction all with
  | nil => cases inItems
  | @cons item first items others related rest ih =>
    rcases nodup_cons.mp nodup with ⟨apart, nodupRest⟩
    have notFirst : ∀ c ∈ items, R c other → R item other → False := by
      intro c member holdsC holdsFirst
      rcases forall₂_left rest member with ⟨other', inOthers, holdsOther⟩
      have isOther : other = other' := same c other other' holdsC holdsOther
      have isFirst : first = other := same item first other related holdsFirst
      exact apart (isFirst.trans isOther ▸ inOthers)
    rcases mem_cons.mp inItems with rfl | later <;>
      rcases mem_cons.mp inItems' with rfl | later'
    · rfl
    · exact (notFirst b later' holds' holds).elim
    · exact (notFirst a later holds holds').elim
    · exact ih nodupRest later later'

end

lemma forall₂_mapM {α β : Type} {f : α → Option β} {items : List α} {results : List β} :
    items.mapM f = some results ↔
      Forall₂ (fun item result => f item = some result) items results := by
  induction items generalizing results with
  | nil =>
    rw [mapM_nil, forall₂_nil_left_iff]
    exact ⟨fun same => (Option.some.inj same).symm, fun same => same ▸ rfl⟩
  | cons item items ih =>
    rw [mapM_cons, forall₂_cons_left_iff]
    simp only [Option.bind_eq_bind, Option.bind_eq_some_iff, ih]
    constructor
    · rintro ⟨result, is, rest, are, same⟩
      exact ⟨result, rest, is, are, (Option.some.inj same).symm⟩
    · rintro ⟨result, rest, is, are, rfl⟩
      exact ⟨result, is, rest, are, rfl⟩

end OpenRoad.Lib
