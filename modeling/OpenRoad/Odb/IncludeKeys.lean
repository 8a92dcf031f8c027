import OpenRoad.Odb.IncludeWeb

/-! Two spellings with one key name one file, with includes of the same keys. -/

namespace OpenRoad.Odb

open OpenRoad.Lib OpenRoad.Lib.PosixPath

namespace IncludeWeb

/-- The name of the current directory has nothing in it that the code looks for in a path. -/
structure PlainCurrent (web : IncludeWeb) : Prop where
  noStar : '*' ∉ web.current_path
  noDbv : ¬ ".3dbv".toList <:+: web.current_path
  noDbx : ¬ ".3dbx".toList <:+: web.current_path

variable {web : IncludeWeb} {p q : Path}

lemma absolute_idem : web.absolute (web.absolute p) = web.absolute p :=
  append_idem web.isCurrent

lemma opened_key (same : web.absolute p = web.absolute q) : web.opened p = web.opened q := by
  rw [opened, opened, place, place, same]

lemma same_key {holds : Path → Path → Prop} (refl : ∀ p, holds p p)
    (symm : ∀ p q, holds p q → holds q p)
    (complete : ∀ p, isAbsolute p = false → holds p (web.absolute p))
    (same : web.absolute p = web.absolute q) : holds p q := by
  rcases append_cases same with rfl | ⟨relative, rfl⟩ | ⟨relative, rfl⟩
  · exact refl p
  · exact complete p relative
  · exact symm _ _ (complete q relative)

lemma contains_key {pattern : Path} (noSeparator : '/' ∉ pattern) (some : pattern ≠ [])
    (notInCurrent : ¬ pattern <:+: web.current_path) (same : web.absolute p = web.absolute q) :
    pattern <:+: p ↔ pattern <:+: q := by
  refine @same_key web p q (fun p q => pattern <:+: p ↔ pattern <:+: q) (fun _ => Iff.rfl)
    (fun _ _ => Iff.symm) ?_ same
  intro p relative
  exact (infix_append_dir web.isCurrent relative noSeparator some notInCurrent).symm

lemma readerOf_key (plain : web.PlainCurrent) (same : web.absolute p = web.absolute q) :
    readerOf p = readerOf q := by
  have dbv := contains_key (by decide) (by decide) plain.noDbv same
  have dbx := contains_key (by decide) (by decide) plain.noDbx same
  rw [readerOf, readerOf]
  simp only [dbv, dbx]

lemma star_key (plain : web.PlainCurrent) (same : web.absolute p = web.absolute q) :
    '*' ∈ p ↔ '*' ∈ q := by
  have single : ∀ path : Path, '*' ∈ path ↔ ['*'] <:+: path := fun path =>
    (List.singleton_infix_iff _ path).symm
  rw [single, single]
  refine contains_key (by decide) (by decide) ?_ same
  rw [← single]
  exact plain.noStar

lemma resolvePath_key (path : Path) (someP : p ≠ []) (someQ : q ≠ [])
    (same : web.absolute p = web.absolute q) :
    web.absolute (resolvePath p path) = web.absolute (resolvePath q path) := by
  cases relative : isAbsolute path with
  | true => simp only [resolvePath, relative, if_true]
  | false =>
    simp only [resolvePath, relative, Bool.false_eq_true, if_false]
    refine @same_key web p q (fun p q => p ≠ [] → q ≠ [] →
      web.absolute (append (parentPath p) path) = web.absolute (append (parentPath q) path))
      (fun _ _ _ => rfl) (fun _ _ holds right left => (holds left right).symm) ?_ same someP someQ
    intro p isRelative some _
    have beside := append_parent web.isCurrent some isRelative relative
    change _ = web.absolute (append (parentPath (append web.current_path p)) path)
    rw [beside]
    exact absolute_idem.symm

/-- What a pattern matches, whatever its spelling. -/
structure SameMatches (web : IncludeWeb) (p q : Path) : Prop where
  filename : filename p = filename q
  directory : web.absolute (parentPath p) = web.absolute (parentPath q)
  entries : ∀ name, isAbsolute name = false →
    web.absolute (append (parentPath p) name) = web.absolute (append (parentPath q) name)

lemma sameMatches (star : '*' ∈ p) (someP : parentPath p ≠ []) (someQ : parentPath q ≠ [])
    (same : web.absolute p = web.absolute q) : SameMatches web p q := by
  have some : p ≠ [] := List.ne_nil_of_mem star
  rcases append_cases same with rfl | ⟨relative, rfl⟩ | ⟨relative, rfl⟩
  · exact ⟨rfl, rfl, fun _ _ => rfl⟩
  · refine ⟨(filename_append web.isCurrent relative).symm, ?_, ?_⟩
    · rw [parentPath_append web.isCurrent some relative someP]
      exact absolute_idem.symm
    · intro name isName
      rw [append_parent web.isCurrent some relative isName]
      exact absolute_idem.symm
  · have someQ' : q ≠ [] := by
      rintro rfl
      exact someQ rfl
    refine ⟨filename_append web.isCurrent relative, ?_, ?_⟩
    · rw [parentPath_append web.isCurrent someQ' relative someQ]
      exact absolute_idem
    · intro name isName
      rw [append_parent web.isCurrent someQ' relative isName]
      exact absolute_idem

lemma globbed_some {directory : Path} {place : FilePlace}
    (found : web.globbed directory = some place) :
    directory ≠ [] ∧ web.place directory = some place := by
  rw [globbed] at found
  split at found
  · cases found
  · rename_i nonempty
    exact ⟨nonempty, (Option.filter_eq_some_iff.mp found).1⟩

lemma resolvePaths_glob {path : Path} {paths : List Path} (star : '*' ∈ resolvePath p path)
    (resolved : web.resolvePaths p path = .ok paths) :
    ∃ place, web.globbed (parentPath (resolvePath p path)) = some place ∧
      paths = ((web.listing place).filter (matchesPattern · (filename (resolvePath p path)))).map
        (append (parentPath (resolvePath p path))) := by
  rw [resolvePaths, if_pos star] at resolved
  simp only at resolved
  split at resolved
  · cases resolved
  · rename_i place found
    exact ⟨place, found, (Except.ok.inj resolved).symm⟩

lemma resolvePaths_key (plain : web.PlainCurrent) (path : Path) (someP : p ≠ []) (someQ : q ≠ [])
    (same : web.absolute p = web.absolute q) {paths paths' : List Path}
    (left : web.resolvePaths p path = .ok paths) (right : web.resolvePaths q path = .ok paths') :
    paths.map web.absolute = paths'.map web.absolute := by
  have resolved := resolvePath_key path someP someQ same
  have stars := star_key plain resolved
  by_cases star : '*' ∈ resolvePath p path
  · rcases resolvePaths_glob star left with ⟨place, found, rfl⟩
    rcases resolvePaths_glob (stars.mp star) right with ⟨place', found', rfl⟩
    rcases globbed_some found with ⟨someDir, isPlace⟩
    rcases globbed_some found' with ⟨someDir', isPlace'⟩
    have matched := sameMatches star someDir someDir' resolved
    have samePlace : place = place' := by
      rw [IncludeWeb.place, matched.directory] at isPlace
      exact Option.some.inj (isPlace.symm.trans isPlace')
    rw [← samePlace, ← matched.filename, List.map_map, List.map_map]
    apply List.map_congr_left
    intro name member
    exact matched.entries name (web.listed place name (List.mem_filter.mp member).1)
  · rw [resolvePaths, if_neg star] at left
    rw [resolvePaths, if_neg (fun other => star (stars.mpr other))] at right
    rw [← Except.ok.inj left, ← Except.ok.inj right]
    exact congrArg (fun key => [key]) resolved

lemma resolveAll_cons {path : Path} {rest paths : List Path}
    (resolved : web.resolveAll p (path :: rest) = .ok paths) :
    ∃ first others, web.resolvePaths p path = .ok first ∧ web.resolveAll p rest = .ok others ∧
      paths = first ++ others := by
  rw [resolveAll] at resolved
  cases isFirst : web.resolvePaths p path with
  | error message =>
    rw [isFirst] at resolved
    cases resolved
  | ok first =>
    cases isOthers : web.resolveAll p rest with
    | error message =>
      rw [isFirst, isOthers] at resolved
      cases resolved
    | ok others =>
      rw [isFirst, isOthers] at resolved
      exact ⟨first, others, rfl, rfl, (Except.ok.inj resolved).symm⟩

lemma resolveAll_key (plain : web.PlainCurrent) (someP : p ≠ []) (someQ : q ≠ [])
    (same : web.absolute p = web.absolute q) (includes : List Path) {paths paths' : List Path}
    (left : web.resolveAll p includes = .ok paths) (right : web.resolveAll q includes = .ok paths') :
    paths.map web.absolute = paths'.map web.absolute := by
  induction includes generalizing paths paths' with
  | nil =>
    rw [← Except.ok.inj left, ← Except.ok.inj right]
  | cons path rest ih =>
    rcases resolveAll_cons left with ⟨first, others, isFirst, isOthers, rfl⟩
    rcases resolveAll_cons right with ⟨first', others', isFirst', isOthers', rfl⟩
    rw [List.map_append, List.map_append, ih isOthers isOthers',
      resolvePaths_key plain path someP someQ same isFirst isFirst']

end IncludeWeb

end OpenRoad.Odb
