import Mathlib.Data.List.Infix
import Mathlib.Data.List.TakeWhile

/-! Paths of a file system as texts, with the operations of `std::filesystem::path` on POSIX systems,
and the place that such a text names when there are no links. -/

namespace OpenRoad.Lib.PosixPath

open List

abbrev Path := List Char

def isAbsolute (p : Path) : Bool := p.head? = some '/'

def filename (p : Path) : Path := (p.reverse.takeWhile (· ≠ '/')).reverse

def dropFilename (p : Path) : Path := (p.reverse.dropWhile (· ≠ '/')).reverse

def dropSeparators (p : Path) : Path := (p.reverse.dropWhile (· = '/')).reverse

def parentPath (p : Path) : Path :=
  if p.all (· = '/') then p
  else
    let dir := dropSeparators (dropFilename p)
    if dir = [] ∧ isAbsolute p then ['/'] else dir

/-- The operator `/` of paths. -/
def append (p q : Path) : Path :=
  if isAbsolute q then q
  else if p = [] ∨ p.getLast? = some '/' then p ++ q
  else p ++ '/' :: q

lemma append_absolute {p q : Path} (absolute : isAbsolute q) : append p q = q :=
  if_pos absolute

lemma append_empty {q : Path} : append [] q = q := by
  rw [append]
  split
  · rfl
  · exact if_pos (.inl rfl)

lemma isAbsolute_append_left {p q : Path} (nonempty : p ≠ []) :
    isAbsolute (p ++ q) = isAbsolute p := by
  cases p with
  | nil => exact absurd rfl nonempty
  | cons c p => rfl

lemma isAbsolute_append {p q : Path} (absolute : isAbsolute p) : isAbsolute (append p q) := by
  have nonempty : p ≠ [] := by
    intro isNil
    rw [isNil] at absolute
    cases absolute
  rw [append]
  split
  · rename_i other
    exact other
  · split
    · rw [isAbsolute_append_left nonempty]
      exact absolute
    · rw [isAbsolute_append_left nonempty]
      exact absolute

structure Directory (p : Path) : Prop where
  absolute : isAbsolute p
  clean : p = ['/'] ∨ p.getLast? ≠ some '/'

def stem (p : Path) : Path := if p = ['/'] then p else p ++ ['/']

variable {dir p q : Path}

lemma append_stem (isDirectory : Directory dir) (relative : isAbsolute p = false) :
    append dir p = stem dir ++ p := by
  rw [append, if_neg (by simp [relative]), stem]
  rcases isDirectory.clean with rfl | clean
  · rfl
  · have nonempty : dir ≠ [] := by
      rintro rfl
      cases isDirectory.absolute
    have notRoot : dir ≠ ['/'] := by
      rintro rfl
      exact clean rfl
    rw [if_neg (by simp [nonempty, clean]), if_neg notRoot, append_assoc]
    rfl

lemma stem_reverse (dir : Path) : ∃ rest, (stem dir).reverse = '/' :: rest := by
  rw [stem]
  split
  · rename_i isRoot
    exact ⟨[], by rw [isRoot]; rfl⟩
  · exact ⟨dir.reverse, by rw [reverse_append]; rfl⟩

lemma filename_stem (dir p : Path) : filename (stem dir ++ p) = filename p := by
  rcases stem_reverse dir with ⟨rest, isReverse⟩
  rw [filename, filename, reverse_append, isReverse, takeWhile_append]
  split
  · rename_i whole
    rw [takeWhile_cons_of_neg (by simp), append_nil]
    exact congrArg reverse (( takeWhile_prefix _).eq_of_length whole).symm
  · rfl

lemma dropFilename_stem (dir p : Path) :
    dropFilename (stem dir ++ p) = stem dir ++ dropFilename p := by
  rcases stem_reverse dir with ⟨rest, isReverse⟩
  have kept : (stem dir).reverse.dropWhile (· ≠ '/') = (stem dir).reverse := by
    rw [isReverse, dropWhile_cons_of_neg (by simp)]
  rw [dropFilename, dropFilename, reverse_append, dropWhile_append]
  split
  · rename_i none
    rw [kept, reverse_reverse, List.isEmpty_iff.mp none, reverse_nil, append_nil]
  · rw [reverse_append, reverse_reverse]

lemma dropSeparators_append {p q : Path} (some : dropSeparators q ≠ []) :
    dropSeparators (p ++ q) = p ++ dropSeparators q := by
  have notEmpty : (q.reverse.dropWhile (· = '/')).isEmpty = false := by
    rw [isEmpty_eq_false_iff]
    intro isNil
    exact some (by rw [dropSeparators, isNil]; rfl)
  rw [dropSeparators, reverse_append, dropWhile_append, notEmpty, if_neg (by simp),
    reverse_append, reverse_reverse]
  rfl

lemma dropSeparators_stem (isDirectory : Directory dir) :
    dropSeparators (stem dir) = if dir = ['/'] then [] else dir := by
  rw [stem]
  split
  · rename_i isRoot
    rw [isRoot]
    rfl
  · rename_i notRoot
    have last : dir.getLast? ≠ some '/' := isDirectory.clean.resolve_left notRoot
    rw [dropSeparators, reverse_append]
    change (dropWhile _ ('/' :: dir.reverse)).reverse = dir
    rw [dropWhile_cons_of_pos (by simp)]
    cases isReverse : dir.reverse with
    | nil => rw [reverse_eq_nil_iff.mp isReverse]; rfl
    | cons c rest =>
      have isLast : dir.getLast? = some c := by
        rw [getLast?_eq_head?_reverse, isReverse]
        rfl
      have other : c ≠ '/' := by
        rintro rfl
        exact last isLast
      rw [dropWhile_cons_of_neg (by simp [other]), ← isReverse, reverse_reverse]

lemma dropSeparators_nonempty {p : Path} (nonempty : p ≠ []) (relative : isAbsolute p = false) :
    dropSeparators p ≠ [] := by
  cases p with
  | nil => exact absurd rfl nonempty
  | cons c p =>
    have other : c ≠ '/' := by
      rintro rfl
      cases relative
    intro isNil
    rw [dropSeparators, reverse_eq_nil_iff, dropWhile_eq_nil_iff] at isNil
    exact other (of_decide_eq_true (isNil c (by simp)))

lemma dropFilename_begins (p : Path) : dropFilename p <+: p := by
  have suffix := dropWhile_suffix (l := p.reverse) (· ≠ '/')
  have := reverse_prefix.mpr suffix
  rwa [reverse_reverse] at this

lemma relative_of_begins {p q : Path} (isPrefix : p <+: q) (nonempty : p ≠ [])
    (relative : isAbsolute q = false) : isAbsolute p = false := by
  rcases isPrefix with ⟨rest, rfl⟩
  rwa [isAbsolute_append_left nonempty] at relative

lemma not_all_separators {p : Path} (nonempty : p ≠ []) (relative : isAbsolute p = false) :
    p.all (· = '/') = false := by
  cases p with
  | nil => exact absurd rfl nonempty
  | cons c p =>
    have other : c ≠ '/' := by
      rintro rfl
      cases relative
    simp [other]

lemma parentPath_relative (nonempty : p ≠ []) (relative : isAbsolute p = false) :
    parentPath p = dropSeparators (dropFilename p) := by
  rw [parentPath, not_all_separators nonempty relative, if_neg (by simp)]
  exact if_neg (by simp [relative])

lemma dropSeparators_begins (p : Path) : dropSeparators p <+: p := by
  have suffix := dropWhile_suffix (l := p.reverse) (· = '/')
  have := reverse_prefix.mpr suffix
  rwa [reverse_reverse] at this

lemma parentPath_isRelative (nonempty : p ≠ []) (relative : isAbsolute p = false) :
    isAbsolute (parentPath p) = false := by
  rw [parentPath_relative nonempty relative]
  by_cases none : dropFilename p = []
  · rw [none]
    rfl
  · have short := relative_of_begins (dropFilename_begins p) none relative
    exact relative_of_begins (dropSeparators_begins _) (dropSeparators_nonempty none short) short

lemma append_isRelative (left : isAbsolute p = false) (right : isAbsolute q = false) :
    isAbsolute (append p q) = false := by
  by_cases empty : p = []
  · rw [empty, append_empty]
    exact right
  · rw [append, if_neg (by simp [right])]
    split
    · rwa [isAbsolute_append_left empty]
    · rwa [isAbsolute_append_left empty]

lemma append_parent_relative (nonempty : p ≠ []) (relative : isAbsolute p = false)
    (relative' : isAbsolute q = false) : isAbsolute (append (parentPath p) q) = false :=
  append_isRelative (parentPath_isRelative nonempty relative) relative'

lemma append_relative (relative : isAbsolute q = false) :
    append p q = if p = [] ∨ p.getLast? = some '/' then p ++ q else p ++ '/' :: q :=
  if_neg (by simp [relative])

lemma append_within (nonempty : p ≠ []) (relative : isAbsolute q = false) (start : Path) :
    append (start ++ p) q = start ++ append p q := by
  have last : (start ++ p).getLast? = p.getLast? := getLast?_append_of_ne_nil _ nonempty
  have some : start ++ p ≠ [] := append_ne_nil_of_right_ne_nil _ nonempty
  rw [append_relative relative, append_relative relative, last]
  by_cases closed : p.getLast? = Option.some '/'
  · rw [if_pos (.inr closed), if_pos (.inr closed), append_assoc]
  · rw [if_neg (not_or.mpr ⟨some, closed⟩), if_neg (not_or.mpr ⟨nonempty, closed⟩),
      append_assoc]

section

variable (isDirectory : Directory dir)
include isDirectory

lemma parentPath_stem (nonempty : p ≠ []) (relative : isAbsolute p = false) :
    parentPath (stem dir ++ p) =
      if dropFilename p = [] then dir else stem dir ++ parentPath p := by
  have notAll : (stem dir ++ p).all (· = '/') = false := by
    rw [all_append, not_all_separators nonempty relative, Bool.and_false]
  have absolute : isAbsolute (stem dir ++ p) := by
    rw [← append_stem isDirectory relative]
    exact isAbsolute_append isDirectory.absolute
  rw [parentPath, notAll, if_neg (by simp), dropFilename_stem]
  simp only [absolute, and_true]
  by_cases none : dropFilename p = []
  · rw [none, append_nil, dropSeparators_stem isDirectory, if_pos rfl]
    by_cases isRoot : dir = ['/']
    · rw [isRoot]
      rfl
    · have some : dir ≠ [] := by
        rintro rfl
        cases isDirectory.absolute
      rw [if_neg isRoot, if_neg some]
  · have kept := dropSeparators_nonempty none
      (relative_of_begins (dropFilename_begins p) none relative)
    rw [dropSeparators_append kept, if_neg (by simp [kept]), if_neg none,
      parentPath_relative nonempty relative]

lemma append_parent (nonempty : p ≠ []) (relative : isAbsolute p = false)
    (relative' : isAbsolute q = false) :
    append (parentPath (append dir p)) q = append dir (append (parentPath p) q) := by
  rw [append_stem isDirectory (append_parent_relative nonempty relative relative'),
    append_stem isDirectory relative, parentPath_stem isDirectory nonempty relative]
  split
  · rename_i none
    have noParent : parentPath p = [] := by
      rw [parentPath_relative nonempty relative, none]
      rfl
    rw [noParent, append_empty, append_stem isDirectory relative']
  · rename_i some
    have kept : parentPath p ≠ [] := by
      rw [parentPath_relative nonempty relative]
      exact dropSeparators_nonempty some (relative_of_begins (dropFilename_begins p) some relative)
    exact append_within kept relative' _

lemma append_idem : append dir (append dir p) = append dir p :=
  append_absolute (isAbsolute_append isDirectory.absolute)

omit isDirectory in
lemma append_cases (same : append dir p = append dir q) :
    p = q ∨ isAbsolute p = false ∧ q = append dir p ∨ isAbsolute q = false ∧ p = append dir q := by
  cases left : isAbsolute p with
  | true =>
    rw [append_absolute left] at same
    cases right : isAbsolute q with
    | true => exact .inl (same.trans (append_absolute right))
    | false => exact .inr (.inr ⟨rfl, same⟩)
  | false =>
    cases right : isAbsolute q with
    | true => exact .inr (.inl ⟨rfl, (append_absolute right).symm.trans same.symm⟩)
    | false =>
      rw [append_relative left, append_relative right] at same
      split at same
      · exact .inl (append_cancel_left same)
      · exact .inl (tail_eq_of_cons_eq (append_cancel_left same))

lemma filename_append (relative : isAbsolute p = false) :
    filename (append dir p) = filename p := by
  rw [append_stem isDirectory relative, filename_stem]

lemma parentPath_append (nonempty : p ≠ []) (relative : isAbsolute p = false)
    (isParent : parentPath p ≠ []) :
    parentPath (append dir p) = append dir (parentPath p) := by
  have some : dropFilename p ≠ [] := by
    intro none
    rw [parentPath_relative nonempty relative, none] at isParent
    exact isParent rfl
  rw [append_stem isDirectory relative, parentPath_stem isDirectory nonempty relative, if_neg some,
    append_stem isDirectory (parentPath_isRelative nonempty relative)]

omit isDirectory in
lemma no_prefix_separator {pattern : Path} (noSeparator : '/' ∉ pattern) (some : pattern ≠ [])
    (rest : Path) : ¬ pattern <+: '/' :: rest := by
  cases pattern with
  | nil => exact absurd rfl some
  | cons c pattern =>
    intro isPrefix
    have isSeparator : c = '/' := (cons_prefix_cons.mp isPrefix).1
    exact noSeparator (isSeparator ▸ mem_cons_self)

lemma infix_append {pattern : Path} (relative : isAbsolute p = false)
    (noSeparator : '/' ∉ pattern) (some : pattern ≠ []) (inside : pattern <:+: append dir p) :
    pattern <:+: dir ∨ pattern <:+: p := by
  have split : ∃ front, append dir p = front ++ '/' :: p ∧ (front = [] ∨ front = dir) := by
    rw [append_stem isDirectory relative, stem]
    split
    · rename_i isRoot
      exact ⟨[], by rw [isRoot]; rfl, .inl rfl⟩
    · exact ⟨dir, by rw [append_assoc]; rfl, .inr rfl⟩
  rcases split with ⟨front, isFront, isDir⟩
  rw [isFront] at inside
  rcases infix_append_iff_ne_nil.mp inside with inFront | inRest | across
  · rcases isDir with rfl | rfl
    · exact absurd (infix_nil.mp inFront) some
    · exact .inl inFront
  · rcases infix_cons_iff.mp inRest with isPrefix | inP
    · exact absurd isPrefix (no_prefix_separator noSeparator some p)
    · exact .inr inP
  · rcases across with ⟨before, after, _, someAfter, isPattern, _, isPrefix⟩
    have noneAfter : '/' ∉ after := fun member =>
      noSeparator (isPattern ▸ mem_append_right before member)
    exact absurd isPrefix (no_prefix_separator noneAfter someAfter p)

lemma infix_append_dir {pattern : Path} (relative : isAbsolute p = false)
    (noSeparator : '/' ∉ pattern) (some : pattern ≠ []) (notInDir : ¬ pattern <:+: dir) :
    pattern <:+: append dir p ↔ pattern <:+: p := by
  constructor
  · intro inside
    exact (infix_append isDirectory relative noSeparator some inside).resolve_left notInDir
  · intro inside
    rw [append_stem isDirectory relative]
    exact inside.trans (suffix_append _ p).isInfix

end

/-- The place that the components lead to from a place; a place is given by the names on the way from
the root to it, last first. -/
def walk (isDirectory : List Path → Bool) : List Path → List Path → Option (List Path)
  | place, [] => some place
  | place, name :: rest =>
    if isDirectory place then
      if name = [] ∨ name = ['.'] then walk isDirectory place rest
      else if name = ['.', '.'] then walk isDirectory place.tail rest
      else walk isDirectory (name :: place) rest
    else none

def locate (isDirectory : List Path → Bool) (p : Path) : Option (List Path) :=
  walk isDirectory [] (p.splitOn '/')

end OpenRoad.Lib.PosixPath
