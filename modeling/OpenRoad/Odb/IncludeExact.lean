import OpenRoad.Odb.IncludeKeys
import OpenRoad.Odb.IncludeRuns

/-! Where all files are good, a file that is reached under two keys is parsed twice or without end. -/

namespace OpenRoad.Odb

open OpenRoad.Lib OpenRoad.Lib.Effect OpenRoad.Lib.PosixPath List

namespace IncludeWeb

/-- The parser that reads a path: the first file is read by `readDbx` whatever its name. -/
def ReadBy (start path : Path) (reader : IncludeReader) : Prop :=
  path = start ∧ reader = .dbx ∨ readerOf path = some reader

/-- Each file that is reached can be opened and parsed, and is taken if no file was read twice. -/
structure Orderly (web : IncludeWeb) (start : Path) : Prop where
  plain : web.PlainCurrent
  named : start ≠ []
  includes : ∀ path, web.Reached start path → ∃ includes,
    web.includesOf path = some includes ∧ [] ∉ includes
  parses : ∀ path place reader, web.Reached start path → ReadBy start path reader →
    web.opened path = some place → web.load reader place = none ∧ web.body reader place = none
  accepted : ∀ path reader s, web.Reached start path → ReadBy start path reader →
    (s.parsed.map web.opened).Nodup → web.precision s path = none ∧ web.chips s reader path = none

variable {web : IncludeWeb} {start path : Path} {s s' mid : FilesRead} {reader : IncludeReader}

def Met (web : IncludeWeb) (includes : List Path) (s : FilesRead) : Prop :=
  ∀ path ∈ includes, (readerOf path).isSome → web.absolute path ∈ s.parsed.map web.absolute

def Closed (web : IncludeWeb) (s : FilesRead) (path : Path) : Prop :=
  ∀ includes, web.includesOf path = some includes → web.Met includes s

/-- What was parsed was reached, and the keys are those of parsed files and of paths at hand. -/
structure Keyed (web : IncludeWeb) (start : Path) (pending : Path → Prop) (s : FilesRead) : Prop where
  reached : ∀ path ∈ s.parsed, web.Reached start path
  keys : ∀ key ∈ s.read_files, key ∈ s.parsed.map web.absolute ∨
    ∃ path, web.absolute path = key ∧ (readerOf path = none ∨ pending path)

structure Covers (web : IncludeWeb) (start : Path) (s s' : FilesRead) : Prop where
  closed : ∀ path ∈ s'.parsed, path ∈ s.parsed ∨ web.Closed s' path
  keyed : web.Keyed start (fun _ => False) s'

/-- Reading goes to its end as long as no file was read twice. -/
structure Completes (web : IncludeWeb) (start : Path) (s : FilesRead) (extra : FilesRead → Prop)
    (result : Except IncludeFault Unit) (s' : FilesRead) : Prop where
  grows : s.parsed <:+ s'.parsed
  covers : result = .ok () → web.Covers start s s' ∧ extra s'
  ends : (s'.parsed.map web.opened).Nodup → result ≠ .error .tooDeep → result = .ok ()

lemma met_grows {includes : List Path} (grows : s.parsed <:+ s'.parsed)
    (met : web.Met includes s) : web.Met includes s' :=
  fun path member isRead => (grows.map web.absolute).subset (met path member isRead)

lemma covers_trans (grows : mid.parsed <:+ s'.parsed) (before : web.Covers start s mid)
    (after : web.Covers start mid s') : web.Covers start s s' where
  closed path member := by
    rcases after.closed path member with earlier | closed
    · rcases before.closed path earlier with there | closed
      · exact .inl there
      · exact .inr fun includes found => met_grows grows (closed includes found)
    · exact .inr closed
  keyed := after.keyed

lemma completes_trans {extra extra' : FilesRead → Prop} {result : Except IncludeFault Unit}
    (before : web.Completes start s extra (.ok ()) mid)
    (after : web.Completes start mid extra' result s') :
    web.Completes start s extra' result s' where
  grows := before.grows.trans after.grows
  covers isOk := ⟨covers_trans after.grows (before.covers rfl).1 (after.covers isOk).1,
    (after.covers isOk).2⟩
  ends := after.ends

lemma keyed_insert {pending pending' : Path → Prop} (keyed : web.Keyed start pending s)
    (known : web.absolute path ∈ s.read_files ∨ readerOf path = none ∨ pending' path)
    (wider : ∀ path, pending path → pending' path) :
    web.Keyed start pending' { s with read_files := web.absolute path :: s.read_files } where
  reached := keyed.reached
  keys key member := by
    have earlier : ∀ key ∈ s.read_files, key ∈ s.parsed.map web.absolute ∨
        ∃ path, web.absolute path = key ∧ (readerOf path = none ∨ pending' path) := by
      intro key member
      rcases keyed.keys key member with isParsed | ⟨other, isKey, unread | isPending⟩
      · exact .inl isParsed
      · exact .inr ⟨other, isKey, .inl unread⟩
      · exact .inr ⟨other, isKey, .inr (wider other isPending)⟩
    rcases mem_cons.mp member with rfl | member
    · rcases known with there | unread | isPending
      · exact earlier _ there
      · exact .inr ⟨path, rfl, .inl unread⟩
      · exact .inr ⟨path, rfl, .inr isPending⟩
    · exact earlier key member

lemma keyed_parse (keyed : web.Keyed start (· = path) s) (isReached : web.Reached start path) :
    web.Keyed start (fun _ => False) { s with parsed := path :: s.parsed } where
  reached := forall_mem_cons.mpr ⟨isReached, keyed.reached⟩
  keys key member := by
    rcases keyed.keys key member with isParsed | ⟨other, isKey, unread | rfl⟩
    · exact .inl (mem_cons_of_mem _ isParsed)
    · exact .inr ⟨other, isKey, .inl unread⟩
    · exact .inl (isKey ▸ mem_cons_self)

section

variable (orderly : web.Orderly start)
include orderly

lemma reached_named (isReached : web.Reached start path) :
    path ≠ [] := by
  cases isReached with
  | start => exact orderly.named
  | step isReached isIncludes member _ =>
    rcases orderly.includes _ isReached with ⟨includes, found, named⟩
    rw [found] at isIncludes
    rintro rfl
    exact named (Option.some.inj isIncludes ▸ member)

lemma key_known (keyed : web.Keyed start (fun _ => False) s)
    (there : web.absolute path ∈ s.read_files) (isRead : (readerOf path).isSome) :
    web.absolute path ∈ s.parsed.map web.absolute := by
  rcases keyed.keys _ there with isParsed | ⟨other, isKey, unread | none⟩
  · exact isParsed
  · rw [← readerOf_key orderly.plain isKey, unread] at isRead
    cases isRead
  · exact none.elim

omit orderly in
lemma covers_refl (keyed : web.Keyed start (fun _ => False) s) : web.Covers start s s :=
  ⟨fun _ member => .inl member, keyed⟩

omit orderly in
lemma completes_error {extra : FilesRead → Prop} {fault : IncludeFault}
    (grows : s.parsed <:+ s'.parsed)
    (never : (s'.parsed.map web.opened).Nodup → fault ≠ .tooDeep → False) :
    web.Completes start s extra (.error fault) s' where
  grows := grows
  covers isOk := nomatch isOk
  ends nodup notDeep := (never nodup fun same => notDeep (same ▸ rfl)).elim

omit orderly in
lemma completes_failed {extra : FilesRead → Prop} {fault : IncludeFault}
    (grows : s.parsed <:+ s'.parsed)
    (ends : (s'.parsed.map web.opened).Nodup →
      (.error fault : Except IncludeFault Unit) ≠ .error .tooDeep →
      (.error fault : Except IncludeFault Unit) = .ok ()) :
    web.Completes start s extra (.error fault) s' where
  grows := grows
  covers isOk := nomatch isOk
  ends := ends

lemma readHeaderIncludes_completes {read : IncludeReader → Path → IncludeM Unit}
    (reads : ∀ reader path s, web.Reached start path → ReadBy start path reader →
      web.Keyed start (· = path) s →
      After (read reader path) s (web.Completes start s fun s' => path ∈ s'.parsed))
    {includes : List Path}
    (isReached : ∀ path ∈ includes, (readerOf path).isSome → web.Reached start path)
    (named : [] ∉ includes) (keyed : web.Keyed start (fun _ => False) s) :
    After (web.readHeaderIncludes read includes) s (web.Completes start s (web.Met includes)) := by
  induction includes generalizing s with
  | nil =>
    refine ⟨suffix_rfl, fun _ => ⟨covers_refl keyed, ?_⟩, fun _ _ => rfl⟩
    intro path member
    cases member
  | cons path rest ih =>
    rw [readHeaderIncludes]
    apply after_bind
    apply after_insertKey
    · rintro rfl
      exact absurd mem_cons_self named
    intro _
    have goesOn : ∀ s', web.Completes start s
        (fun s' => (readerOf path).isSome → web.absolute path ∈ s'.parsed.map web.absolute)
        (.ok ()) s' →
        After (web.readHeaderIncludes read rest) s'
          (web.Completes start s (web.Met (path :: rest))) := by
      intro s' before
      rcases before.covers rfl with ⟨covers, first⟩
      refine after_mono (ih (fun other member => isReached other (mem_cons_of_mem path member))
        (fun member => named (mem_cons_of_mem path member)) covers.keyed) ?_
      intro result last after
      have both := completes_trans before after
      refine ⟨both.grows, ?_, both.ends⟩
      intro isOk
      rcases both.covers isOk with ⟨coversBoth, metRest⟩
      refine ⟨coversBoth, forall_mem_cons.mpr ⟨?_, metRest⟩⟩
      exact fun isRead => (after.grows.map web.absolute).subset (first isRead)
    apply after_bind
    apply after_readInclude
    · intro reader new found
      have isRead : (readerOf path).isSome := by rw [found]; rfl
      refine after_mono (reads reader path _ (isReached path mem_cons_self isRead)
        (.inr found) (keyed_insert keyed (.inr (.inr rfl)) fun _ none => none.elim)) ?_
      intro result s' completes
      cases result with
      | error fault => exact completes_failed completes.grows completes.ends
      | ok _ =>
        refine goesOn s' ⟨completes.grows, ?_, fun _ _ => rfl⟩
        intro _
        rcases completes.covers rfl with ⟨covers, isParsed⟩
        exact ⟨⟨covers.closed, covers.keyed⟩, fun _ => mem_map_of_mem isParsed⟩
    · intro skipped
      have metFirst : (readerOf path).isSome → web.absolute path ∈ s.parsed.map web.absolute := by
        intro isRead
        rcases skipped with old | unread
        · exact key_known orderly keyed (of_not_not (of_decide_eq_false old)) isRead
        · rw [unread] at isRead
          cases isRead
      refine goesOn _ ⟨suffix_rfl, ?_, fun _ _ => rfl⟩
      intro _
      refine ⟨⟨fun _ member => .inl member, ?_⟩, metFirst⟩
      refine keyed_insert keyed ?_ fun _ none => none.elim
      rcases skipped with old | unread
      · exact .inl (of_not_not (of_decide_eq_false old))
      · exact .inr (.inl unread)

lemma readFile_completes (depth : Nat) (reader : IncludeReader)
    (isReached : web.Reached start path) (readBy : ReadBy start path reader)
    (keyed : web.Keyed start (· = path) s) :
    After (web.readFile depth reader path) s
      (web.Completes start s fun s' => path ∈ s'.parsed) := by
  induction depth generalizing reader path s with
  | zero => exact completes_error suffix_rfl fun _ notDeep => notDeep rfl
  | succ depth ih =>
    rcases orderly.includes path isReached with ⟨expected, isExpected, named⟩
    have grows : s.parsed <:+ path :: s.parsed := suffix_cons path s.parsed
    rw [readFile]
    apply after_bind
    apply after_insertKey
    · intro empty
      exact absurd empty (reached_named orderly isReached)
    intro _
    have inserted : web.Keyed start (· = path) _ :=
      keyed_insert keyed (.inr (.inr rfl)) fun _ isPath => isPath
    apply after_bind
    apply after_parseFile
    · intro unopened
      rw [includesOf, unopened] at isExpected
      cases isExpected
    · intro place isOpened message failed
      have parses := orderly.parses path place reader isReached readBy isOpened
      rw [parses.1, parses.2, isExpected] at failed
      rcases failed with failed | failed | failed <;> cases failed
    intro includes isOpened isIncludes
    rw [isExpected] at isIncludes
    rw [← Option.some.inj isIncludes]
    have parsed := keyed_parse inserted isReached
    apply after_bind
    apply after_checkPrecision
    · intro message found
      refine completes_error grows fun nodup _ => ?_
      rw [(orderly.accepted path reader _ isReached readBy nodup).1] at found
      cases found
    apply after_bind
    refine after_mono (readHeaderIncludes_completes orderly
      (fun reader path s isReached readBy keyed => ih reader isReached readBy keyed)
      (fun other member isRead => isReached.step isExpected member isRead) named parsed) ?_
    intro result s' completes
    have grew : s.parsed <:+ s'.parsed := grows.trans completes.grows
    cases result with
    | error fault => exact completes_failed grew completes.ends
    | ok _ =>
      apply after_createChips
      · intro message found
        refine completes_error grew fun nodup _ => ?_
        rw [(orderly.accepted path reader _ isReached readBy nodup).2] at found
        cases found
      · rcases completes.covers rfl with ⟨covers, met⟩
        have isParsed : path ∈ s'.parsed := completes.grows.subset mem_cons_self
        refine ⟨grew, fun _ => ⟨⟨?_, ⟨covers.keyed.reached, covers.keyed.keys⟩⟩, isParsed⟩,
          fun _ _ => rfl⟩
        intro other member
        rcases covers.closed other member with earlier | closed
        · rcases mem_cons.mp earlier with rfl | there
          · refine .inr fun found isFound => ?_
            rw [isExpected] at isFound
            exact Option.some.inj isFound ▸ met
          · exact .inl there
        · exact .inr closed

omit orderly in
lemma toOption_some {ε α : Type} {result : Except ε α} {value : α}
    (isSome : result.toOption = some value) : result = .ok value := by
  cases result with
  | error fault => cases isSome
  | ok found => exact congrArg Except.ok (Option.some.inj isSome)

lemma parseHeader_key {p q : Path} (someP : p ≠ []) (someQ : q ≠ [])
    (same : web.absolute p = web.absolute q) {includes includes' : List Path}
    (left : web.includesOf p = some includes) (right : web.includesOf q = some includes') :
    includes.map web.absolute = includes'.map web.absolute := by
  rw [includesOf, opened_key same] at left
  rw [includesOf] at right
  cases isOpened : web.opened q with
  | none =>
    rw [isOpened] at right
    cases right
  | some place =>
    rw [isOpened, Option.bind_some, parseHeader] at left right
    cases isHeader : web.header place with
    | error message =>
      rw [isHeader] at left
      cases left
    | ok patterns =>
      rw [isHeader] at left right
      change (web.resolveAll p patterns).toOption = some includes at left
      change (web.resolveAll q patterns).toOption = some includes' at right
      exact resolveAll_key orderly.plain someP someQ same patterns (toOption_some left)
        (toOption_some right)

lemma reached_parsed (keyed : web.Keyed start (fun _ => False) s)
    (closed : ∀ path ∈ s.parsed, web.Closed s path) (first : start ∈ s.parsed)
    (isReached : web.Reached start path) : web.absolute path ∈ s.parsed.map web.absolute := by
  induction isReached with
  | start => exact mem_map_of_mem first
  | @step path includes next isReached isIncludes member isRead ih =>
    rcases mem_map.mp ih with ⟨parsed, isParsed, same⟩
    have parsedReached := keyed.reached parsed isParsed
    rcases orderly.includes parsed parsedReached with ⟨includes', isIncludes', _⟩
    have keys := parseHeader_key orderly (reached_named orderly isReached)
      (reached_named orderly parsedReached) same.symm isIncludes isIncludes'
    have isKey : web.absolute next ∈ includes'.map web.absolute :=
      keys ▸ mem_map_of_mem member
    rcases mem_map.mp isKey with ⟨next', member', sameNext⟩
    rw [← sameNext]
    refine closed parsed isParsed includes' isIncludes' next' member' ?_
    rwa [readerOf_key orderly.plain sameNext]

omit orderly in
lemma keyed_start {pending : Path → Prop} : web.Keyed start pending FilesRead.start where
  reached path member := by cases member
  keys key member := by cases member

lemma spelledOnce_of_readsEachOnce (once : web.ReadsEachOnce start) : web.SpelledOnce start := by
  rcases once with ⟨⟨depth, ends⟩, nodups⟩
  have nodup := nodups depth
  have completes := readFile_completes orderly depth .dbx Reached.start (.inl ⟨rfl, rfl⟩)
    keyed_start
  have isOk := completes.ends nodup ends
  rcases completes.covers isOk with ⟨covers, first⟩
  have closed := fun path member => (covers.closed path member).resolve_left not_mem_nil
  intro p q place isReached isReached' isOpened isOpened'
  rcases mem_map.mp (reached_parsed orderly covers.keyed closed first isReached) with
    ⟨p', isParsed, sameP⟩
  rcases mem_map.mp (reached_parsed orderly covers.keyed closed first isReached') with
    ⟨q', isParsed', sameQ⟩
  have sameFile : web.opened p' = web.opened q' := by
    calc
      web.opened p' = web.opened p := opened_key sameP
      _ = some place := isOpened
      _ = web.opened q := isOpened'.symm
      _ = web.opened q' := (opened_key sameQ).symm
  have same : p' = q' := inj_on_of_nodup_map nodup isParsed isParsed' sameFile
  rw [← sameP, ← sameQ, same]

end

/-- A web is read to its end and each file once if no file is reached under two keys, and where there
are no other errors only then. -/
theorem readsEachOnce_iff (web : IncludeWeb) (start : Path) :
    (web.SpelledOnce start → web.ReadsEachOnce start) ∧
      (web.Orderly start → (web.ReadsEachOnce start ↔ web.SpelledOnce start)) :=
  ⟨readsEachOnce_of_spelledOnce, fun orderly =>
    ⟨spelledOnce_of_readsEachOnce orderly, readsEachOnce_of_spelledOnce⟩⟩

lemma reached_within {paths : List Path} (first : start ∈ paths)
    (closed : ∀ path ∈ paths, ∀ next ∈ (web.includesOf path).getD [], next ∈ paths)
    (isReached : web.Reached start path) : path ∈ paths := by
  induction isReached with
  | start => exact first
  | @step path includes next _ isIncludes member _ ih =>
    refine closed path ih next ?_
    rw [isIncludes]
    exact member

/-- The directory `/w` with the directory `lib` in it, and files with these includes that meet no
error. -/
def directoryW (files : List (FilePlace × List Path)) : IncludeWeb where
  current_path := "/w".toList
  isCurrent := ⟨rfl, .inr (by decide)⟩
  isDirectory place := place ∈ [[], ["w".toList], ["lib".toList, "w".toList]]
  files := files.map Prod.fst
  listing _ := []
  listed _ _ member := by cases member
  load _ _ := none
  header place := .ok ((files.lookup place).getD [])
  body _ _ := none
  precision _ _ := none
  chips _ _ _ := none

/-- Two definitions below `lib` that the top file includes; one includes the other beside it and names
itself by its absolute path. -/
def sharedDefs : IncludeWeb :=
  directoryW [
    (["top.3dbx".toList, "w".toList], ["lib/c.3dbv".toList, "lib/d.3dbv".toList]),
    (["c.3dbv".toList, "lib".toList, "w".toList], []),
    (["d.3dbv".toList, "lib".toList, "w".toList], ["c.3dbv".toList, "/w/lib/d.3dbv".toList])]

def sharedPaths : List Path :=
  ["top.3dbx".toList, "lib/c.3dbv".toList, "lib/d.3dbv".toList, "/w/lib/d.3dbv".toList,
    "/w/lib/c.3dbv".toList]

lemma sharedDefs_within (isReached : sharedDefs.Reached "top.3dbx".toList path) :
    path ∈ sharedPaths :=
  reached_within (by decide) (by decide) isReached

lemma sharedDefs_spelledOnce : sharedDefs.SpelledOnce "top.3dbx".toList := by
  intro p q place isReached isReached' isOpened isOpened'
  have same : ∀ p ∈ sharedPaths, ∀ q ∈ sharedPaths, sharedDefs.opened p = sharedDefs.opened q →
      sharedDefs.absolute p = sharedDefs.absolute q := by
    decide
  exact same p (sharedDefs_within isReached) q (sharedDefs_within isReached')
    (isOpened.trans isOpened'.symm)

lemma sharedDefs_orderly : sharedDefs.Orderly "top.3dbx".toList := by
  refine ⟨⟨by decide, by decide, by decide⟩, by decide, ?_,
    fun _ _ _ _ _ _ => ⟨rfl, rfl⟩, fun _ _ _ _ _ _ => ⟨rfl, rfl⟩⟩
  intro path isReached
  have found : ∀ path ∈ sharedPaths, (sharedDefs.includesOf path).isSome ∧
      [] ∉ (sharedDefs.includesOf path).getD [] := by
    decide
  rcases found path (sharedDefs_within isReached) with ⟨isSome, named⟩
  rcases Option.isSome_iff_exists.mp isSome with ⟨includes, isIncludes⟩
  rw [isIncludes] at named
  exact ⟨includes, isIncludes, named⟩

theorem sharedDefs_read : sharedDefs.ReadsEachOnce "top.3dbx".toList ∧
    (sharedDefs.ReadsEachOnce "top.3dbx".toList ↔ sharedDefs.SpelledOnce "top.3dbx".toList) :=
  ⟨(readsEachOnce_iff sharedDefs _).1 sharedDefs_spelledOnce,
    (readsEachOnce_iff sharedDefs _).2 sharedDefs_orderly⟩

def twoSpellings : IncludeWeb :=
  directoryW [
    (["top.3dbx".toList, "w".toList], ["c.3dbv".toList, "./c.3dbv".toList]),
    (["c.3dbv".toList, "w".toList], [])]

theorem twoSpellings_parsed_twice : ¬ twoSpellings.ReadsEachOnce "top.3dbx".toList := by
  intro once
  have twice : ¬ (((twoSpellings.readDbx 2 "top.3dbx".toList).exec FilesRead.start).2.parsed.map
      twoSpellings.opened).Nodup := by
    decide
  exact twice (once.2 2)

end IncludeWeb

end OpenRoad.Odb
