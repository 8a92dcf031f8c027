import OpenRoad.Odb.IncludeWeb

/-! Include resolution ends and reads each file once when no file is reached under two keys. -/

namespace OpenRoad.Odb

open OpenRoad.Lib OpenRoad.Lib.Effect OpenRoad.Lib.PosixPath List

namespace IncludeWeb

variable (web : IncludeWeb) (start : Path)

def includesOf (path : Path) : Option (List Path) :=
  (web.opened path).bind fun place => (web.parseHeader path place).toOption

inductive Reached : Path → Prop
  | start : Reached start
  | step {path includes path' : _} : Reached path → web.includesOf path = some includes →
      path' ∈ includes → (readerOf path').isSome → Reached path'

def SpelledOnce : Prop :=
  ∀ p q place, web.Reached start p → web.Reached start q → web.opened p = some place →
    web.opened q = some place → web.absolute p = web.absolute q

def ReadsEachOnce : Prop :=
  (∃ depth, ((web.readDbx depth start).exec FilesRead.start).1 ≠ .error .tooDeep) ∧
    ∀ depth, (((web.readDbx depth start).exec FilesRead.start).2.parsed.map web.opened).Nodup

variable {web start} {s s' : FilesRead} {path : Path} {reader : IncludeReader} {depth : Nat}

variable {post : Except IncludeFault Unit → FilesRead → Prop}

lemma after_raiseIf {message : Option Message}
    (raises : ∀ found, message = some found → post (.error (.error found)) s)
    (passes : message = none → post (.ok ()) s) : After (raiseIf message) s post := by
  cases message with
  | none => exact passes rfl
  | some found => exact raises found rfl

lemma after_insertKey {post : Except IncludeFault Bool → FilesRead → Prop}
    (raises : path = [] → post (.error .filesystem) s)
    (inserts : path ≠ [] → post (.ok (decide (web.absolute path ∉ s.read_files)))
      { s with read_files := web.absolute path :: s.read_files }) :
    After (web.insertKey path) s post := by
  rw [insertKey]
  split
  · rename_i empty
    exact raises empty
  · rename_i nonempty
    exact inserts nonempty

lemma after_checkPrecision
    (raises : ∀ found, web.precision s path = some found → post (.error (.error found)) s)
    (passes : post (.ok ()) s) : After (web.checkPrecision reader path) s post := by
  refine after_ok (exec_get s) ?_
  cases reader with
  | dbv => exact after_raiseIf raises fun _ => passes
  | dbx => exact passes

lemma after_createChips
    (raises : ∀ found, web.chips s reader path = some found → post (.error (.error found)) s)
    (passes : post (.ok ()) { s with created := path :: s.created }) :
    After (web.createChips reader path) s post := by
  refine after_ok (exec_get s) ?_
  apply after_bind
  apply after_raiseIf
  · exact raises
  · intro _
    exact passes

lemma after_readInclude {read : IncludeReader → Path → IncludeM Unit} {inserted : Bool}
    (reads : ∀ reader, inserted = true → readerOf path = some reader →
      After (read reader path) s post)
    (skips : inserted = false ∨ readerOf path = none → post (.ok ()) s) :
    After (readInclude read path inserted) s post := by
  cases inserted with
  | false => exact skips (.inl rfl)
  | true =>
    unfold readInclude
    cases found : readerOf path with
    | none => exact skips (.inr found)
    | some reader => exact reads reader rfl found

lemma after_parseFile {post : Except IncludeFault (List Path) → FilesRead → Prop}
    (closed : web.opened path = none → ∀ message, post (.error (.error message)) s)
    (raises : ∀ place, web.opened path = some place → ∀ message,
      (web.load reader place = some message ∨ web.includesOf path = none ∨
        web.body reader place = some message) →
      post (.error (.error message)) { s with parsed := path :: s.parsed })
    (passes : ∀ includes, (web.opened path).isSome → web.includesOf path = some includes →
      post (.ok includes) { s with parsed := path :: s.parsed }) :
    After (web.parseFile reader path) s post := by
  rw [parseFile]
  cases isOpened : web.opened path with
  | none => exact closed isOpened _
  | some place =>
    have includesAre : web.includesOf path = (web.parseHeader path place).toOption := by
      rw [includesOf, isOpened]
      rfl
    refine after_ok (exec_modify _ s) ?_
    apply after_bind
    apply after_raiseIf
    · intro message found
      exact raises place isOpened message (.inl found)
    · intro _
      cases header : web.parseHeader path place with
      | error message =>
        exact raises place isOpened _ (.inr (.inl (by rw [includesAre, header]; rfl)))
      | ok includes =>
        apply after_bind
        apply after_raiseIf
        · intro message found
          exact raises place isOpened message (.inr (.inr found))
        · intro _
          exact passes includes (by rw [isOpened]; rfl) (by rw [includesAre, header]; rfl)

/-- What was parsed was reached and opened, each file once, and its key is known. -/
structure Sound (web : IncludeWeb) (start : Path) (s : FilesRead) : Prop where
  reached : ∀ p ∈ s.parsed, web.Reached start p
  opened : ∀ p ∈ s.parsed, (web.opened p).isSome
  keyed : ∀ p ∈ s.parsed, web.absolute p ∈ s.read_files
  nodup : (s.parsed.map web.opened).Nodup

/-- A reading from a sound state: it ends if there is a call left for each file that is not yet
parsed. -/
structure Advances (web : IncludeWeb) (start : Path) (depth : Nat) (s : FilesRead)
    (result : Except IncludeFault Unit) (s' : FilesRead) : Prop where
  sound : Sound web start s'
  grows : s.parsed.length ≤ s'.parsed.length
  ends : web.files.length < depth + s.parsed.length → result ≠ .error .tooDeep

lemma sound_start : Sound web start FilesRead.start := by
  refine ⟨?_, ?_, ?_, nodup_nil⟩
  · intro p member
    cases member
  · intro p member
    cases member
  · intro p member
    cases member

lemma opened_mem {place : FilePlace} (isOpened : web.opened path = some place) :
    place ∈ web.files := by
  rw [opened, Option.filter_eq_some_iff] at isOpened
  exact of_decide_eq_true isOpened.2

lemma parsed_le (sound : Sound web start s) : s.parsed.length ≤ web.files.length := by
  have inside : s.parsed.map web.opened ⊆ web.files.map some := by
    intro file member
    rcases mem_map.mp member with ⟨p, isParsed, rfl⟩
    rcases Option.isSome_iff_exists.mp (sound.opened p isParsed) with ⟨place, isOpened⟩
    exact mem_map.mpr ⟨place, opened_mem isOpened, isOpened.symm⟩
  calc
    s.parsed.length = (s.parsed.map web.opened).length := (length_map _).symm
    _ ≤ (web.files.map some).length := (sound.nodup.subperm inside).length_le
    _ = web.files.length := length_map _

lemma insert_sound (sound : Sound web start s) (key : Path) :
    Sound web start { s with read_files := key :: s.read_files } where
  reached := sound.reached
  opened := sound.opened
  keyed p member := mem_cons_of_mem key (sound.keyed p member)
  nodup := sound.nodup

lemma parse_sound (sound : Sound web start s) (isReached : web.Reached start path)
    (isOpened : (web.opened path).isSome) (keyed : web.absolute path ∈ s.read_files)
    (fresh : web.opened path ∉ s.parsed.map web.opened) :
    Sound web start { s with parsed := path :: s.parsed } := by
  refine ⟨?_, ?_, ?_, nodup_cons.mpr ⟨fresh, sound.nodup⟩⟩
  · exact forall_mem_cons.mpr ⟨isReached, sound.reached⟩
  · exact forall_mem_cons.mpr ⟨isOpened, sound.opened⟩
  · exact forall_mem_cons.mpr ⟨keyed, sound.keyed⟩

lemma fresh_of_new (spelled : web.SpelledOnce start) (sound : Sound web start s)
    (isReached : web.Reached start path) (new : web.absolute path ∉ s.read_files) :
    web.opened path ∉ s.parsed.map web.opened := by
  intro member
  rcases mem_map.mp member with ⟨q, isParsed, same⟩
  rcases Option.isSome_iff_exists.mp (sound.opened q isParsed) with ⟨place, isOpened⟩
  have sameKey := spelled q path place (sound.reached q isParsed) isReached isOpened
    (same ▸ isOpened)
  exact new (sameKey ▸ sound.keyed q isParsed)

lemma advances_refl (sound : Sound web start s) {result : Except IncludeFault Unit}
    (ends : result ≠ .error .tooDeep) : Advances web start depth s result s :=
  ⟨sound, le_rfl, fun _ => ends⟩

lemma advances_trans {mid : FilesRead} {first result : Except IncludeFault Unit}
    (before : Advances web start depth s first mid)
    (after : Advances web start depth mid result s') : Advances web start depth s result s' :=
  ⟨after.sound, before.grows.trans after.grows,
    fun enough => after.ends (enough.trans_le (Nat.add_le_add_left before.grows depth))⟩

lemma readHeaderIncludes_sound (spelled : web.SpelledOnce start)
    {read : IncludeReader → Path → IncludeM Unit}
    (reads : ∀ reader path s, Sound web start s → web.Reached start path →
      web.absolute path ∈ s.read_files → web.opened path ∉ s.parsed.map web.opened →
      After (read reader path) s (Advances web start depth s))
    {includes : List Path}
    (isReached : ∀ path ∈ includes, (readerOf path).isSome → web.Reached start path)
    (sound : Sound web start s) :
    After (web.readHeaderIncludes read includes) s (Advances web start depth s) := by
  induction includes generalizing s with
  | nil => exact advances_refl sound (fun tooDeep => nomatch tooDeep)
  | cons path rest ih =>
    have isReachedRest := fun other member => isReached other (mem_cons_of_mem path member)
    rw [readHeaderIncludes]
    apply after_bind
    apply after_insertKey
    · intro _
      exact advances_refl sound (by simp)
    · intro _
      have inserted := insert_sound sound (web.absolute path)
      have unread : Advances web start depth s (.ok ())
          { s with read_files := web.absolute path :: s.read_files } :=
        ⟨inserted, le_rfl, fun _ => by simp⟩
      have goesOn : ∀ s', Advances web start depth s (.ok ()) s' →
          After (web.readHeaderIncludes read rest) s' (Advances web start depth s) := by
        intro s' before
        exact after_mono (ih isReachedRest before.sound) fun _ _ => advances_trans before
      apply after_bind
      apply after_readInclude
      · intro reader new found
        have isNew := of_decide_eq_true new
        have isReached' := isReached path mem_cons_self (by rw [found]; rfl)
        have isFresh := fresh_of_new spelled sound isReached' isNew
        refine after_mono (reads _ path _ inserted isReached' mem_cons_self isFresh) ?_
        intro result s' advances
        cases result with
        | error fault => exact advances_trans unread advances
        | ok _ => exact goesOn s' (advances_trans unread advances)
      · intro _
        exact goesOn _ unread

lemma readFile_sound (spelled : web.SpelledOnce start) (reader : IncludeReader)
    (sound : Sound web start s) (isReached : web.Reached start path)
    (fresh : web.opened path ∉ s.parsed.map web.opened) :
    After (web.readFile depth reader path) s (Advances web start depth s) := by
  induction depth generalizing reader path s with
  | zero =>
    refine ⟨sound, le_rfl, ?_⟩
    intro enough
    exact absurd (parsed_le sound) (by omega)
  | succ depth ih =>
    rw [readFile]
    apply after_bind
    apply after_insertKey
    · intro _
      exact advances_refl sound (by simp)
    intro _
    have inserted := insert_sound sound (web.absolute path)
    apply after_bind
    apply after_parseFile
    · intro _ message
      exact ⟨inserted, le_rfl, fun _ => by simp⟩
    · intro place isOpened message _
      refine ⟨parse_sound inserted isReached ?_ mem_cons_self fresh, Nat.le_succ _,
        fun _ => by simp⟩
      rw [isOpened]
      rfl
    intro includes isOpened isIncludes
    have parsed := parse_sound inserted isReached isOpened mem_cons_self fresh
    apply after_bind
    apply after_checkPrecision
    · intro message _
      exact ⟨parsed, Nat.le_succ _, fun _ => by simp⟩
    apply after_bind
    refine after_mono (readHeaderIncludes_sound spelled
      (fun reader path s sound isReached _ fresh => ih reader sound isReached fresh)
      (fun other member isRead => isReached.step isIncludes member isRead) parsed) ?_
    intro result s' advances
    have grows : s.parsed.length + 1 ≤ s'.parsed.length := advances.grows
    cases result with
    | error fault =>
      refine ⟨advances.sound, by omega, ?_⟩
      intro enough
      exact advances.ends (by simp only [length_cons]; omega)
    | ok _ =>
      apply after_createChips
      · intro message _
        exact ⟨advances.sound, by omega, fun _ => by simp⟩
      · have sound := advances.sound
        have further : s.parsed.length ≤ s'.parsed.length := by omega
        exact ⟨⟨sound.reached, sound.opened, sound.keyed, sound.nodup⟩, further, fun _ => by simp⟩

lemma readsEachOnce_of_spelledOnce (spelled : web.SpelledOnce start) :
    web.ReadsEachOnce start := by
  have advances : ∀ depth, After (web.readFile depth .dbx start) FilesRead.start
      (Advances web start depth FilesRead.start) := fun depth =>
    readFile_sound spelled .dbx sound_start Reached.start not_mem_nil
  exact ⟨⟨web.files.length + 1, (advances _).ends (Nat.lt_succ_self _)⟩,
    fun depth => (advances depth).sound.nodup⟩

end IncludeWeb

end OpenRoad.Odb
