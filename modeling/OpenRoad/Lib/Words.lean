import Mathlib.Data.List.TakeWhile
import Mathlib.Data.Rat.Floor

/-! Lines, words and numbers of a text, as the streams and `std::stod` of C++ read them. -/

namespace OpenRoad.Lib.Words

open List

abbrev Text := List Char

/-- `std::isspace` in the C locale. -/
def isSpace (c : Char) : Bool :=
  c = ' ' ∨ c = '\t' ∨ c = '\n' ∨ c = '\x0b' ∨ c = '\x0c' ∨ c = '\r'

/-- The lines that `std::getline` gives; a last line needs no end. -/
def lines (text : Text) : List Text :=
  let parts := text.splitOn '\n'
  if parts.getLast? = some [] then parts.dropLast else parts

/-- The words that `stream >> word` gives. -/
def words (line : Text) : List Text := (line.splitOnP isSpace).filter (· ≠ [])

def joined : List Text → Text
  | [] => []
  | [field] => field
  | field :: next :: rest => field ++ ' ' :: joined (next :: rest)

def NoSpace (field : Text) : Prop := ∀ c ∈ field, isSpace c = false

variable {field : Text}

lemma noSpace_of_all (all : field.all (fun c => !isSpace c) = true) : NoSpace field := by
  intro c member
  exact Bool.not_eq_true' _ |>.mp (all_eq_true.mp all c member)

lemma words_append (noSpace : NoSpace field) (rest : Text) :
    words (field ++ ' ' :: rest) = if field = [] then words rest else field :: words rest := by
  rw [words, splitOnP_append_cons_of_forall_mem noSpace ' ' rfl, filter_cons]
  by_cases empty : field = []
  · rw [if_pos empty, if_neg (by simp [empty])]
    rfl
  · rw [if_neg empty, if_pos (by simp [empty])]
    rfl

lemma words_single (noSpace : NoSpace field) :
    words field = if field = [] then [] else [field] := by
  rw [words, splitOnP_eq_singleton noSpace, filter_cons]
  by_cases empty : field = []
  · rw [if_pos empty, if_neg (by simp [empty])]
    rfl
  · rw [if_neg empty, if_pos (by simp [empty])]
    rfl

variable {fields : List Text}

lemma words_joined (noSpace : ∀ field ∈ fields, NoSpace field) :
    words (joined fields) = fields.filter (· ≠ []) := by
  induction fields with
  | nil => rfl
  | cons field rest ih =>
    have first := noSpace field mem_cons_self
    cases rest with
    | nil =>
      rw [joined, words_single first]
      by_cases empty : field = [] <;> simp [empty]
    | cons next rest =>
      rw [joined, words_append first,
        ih fun other member => noSpace other (mem_cons_of_mem field member)]
      by_cases empty : field = [] <;> simp [empty]

lemma mem_joined {c : Char} (member : c ∈ joined fields) :
    c = ' ' ∨ ∃ field ∈ fields, c ∈ field := by
  induction fields with
  | nil => cases member
  | cons field rest ih =>
    cases rest with
    | nil => exact .inr ⟨field, mem_singleton_self field, member⟩
    | cons next rest =>
      rcases mem_append.mp member with inField | inRest
      · exact .inr ⟨field, mem_cons_self, inField⟩
      · rcases mem_cons.mp inRest with isBlank | inRest
        · exact .inl isBlank
        · rcases ih inRest with isBlank | ⟨other, isOther, inOther⟩
          · exact .inl isBlank
          · exact .inr ⟨other, mem_cons_of_mem field isOther, inOther⟩

lemma joined_oneLine (noSpace : ∀ field ∈ fields, NoSpace field) : '\n' ∉ joined fields := by
  intro member
  rcases mem_joined member with isBlank | ⟨field, isField, inField⟩
  · cases isBlank
  · exact absurd (noSpace field isField '\n' inField) (by decide)

lemma lines_cons {line : Text} (oneLine : '\n' ∉ line) (rest : Text) :
    lines (line ++ '\n' :: rest) = line :: lines rest := by
  have parts : (line ++ '\n' :: rest).splitOn '\n' = line :: rest.splitOn '\n' := by
    refine splitOnP_append_cons_of_forall_mem ?_ '\n' (by simp) rest
    intro c member
    exact beq_eq_false_iff_ne.mpr (fun isEnd => oneLine (isEnd ▸ member))
  have some : rest.splitOn '\n' ≠ [] := splitOnP_ne_nil _ rest
  rw [lines, lines, parts]
  simp only [getLast?_cons_of_ne_nil some, dropLast_cons_of_ne_nil some]
  split <;> rfl

/-- `std::stod` of a number in decimal notation; exponents, hexadecimal numbers and the names of
infinite values are left out. -/
def stodDecimal (text : Text) : Option Rat :=
  let text := text.dropWhile isSpace
  let (sign, digits) : Rat × Text :=
    match text with
    | '-' :: rest => (-1, rest)
    | '+' :: rest => (1, rest)
    | _ => (1, text)
  let whole := digits.takeWhile Char.isDigit
  let fraction :=
    match digits.dropWhile Char.isDigit with
    | '.' :: rest => rest.takeWhile Char.isDigit
    | _ => []
  if whole = [] ∧ fraction = [] then none
  else
    some (sign * (Nat.ofDigitChars 10 whole 0 +
      Nat.ofDigitChars 10 fraction 0 / 10 ^ fraction.length))

lemma noSpace_digits (n : Nat) : NoSpace (Nat.toDigits 10 n) := by
  intro c member
  have isDigit := Nat.isDigit_of_mem_toDigits (by decide) (by decide) member
  simp only [isSpace, decide_eq_false_iff_not]
  rintro (rfl | rfl | rfl | rfl | rfl | rfl) <;> exact absurd isDigit (by decide)

lemma stodDecimal_digits (n : Nat) : stodDecimal (Nat.toDigits 10 n) = some (n : Rat) := by
  have isDigit : ∀ c ∈ Nat.toDigits 10 n, c.isDigit :=
    fun c member => Nat.isDigit_of_mem_toDigits (by decide) (by decide) member
  have noSpace := noSpace_digits n
  have some : Nat.toDigits 10 n ≠ [] := Nat.toDigits_ne_nil
  have value := Nat.ofDigitChars_ten_toDigits (n := n)
  rcases shape : Nat.toDigits 10 n with _ | ⟨c, rest⟩
  · exact absurd shape some
  · rw [shape] at isDigit noSpace value
    have kept : (c :: rest).dropWhile isSpace = c :: rest := by
      rw [dropWhile_cons_of_neg (by simp [noSpace c mem_cons_self])]
    have whole : (c :: rest).takeWhile Char.isDigit = c :: rest :=
      takeWhile_eq_self_iff.mpr isDigit
    have nothing : (c :: rest).dropWhile Char.isDigit = [] :=
      dropWhile_eq_nil_iff.mpr isDigit
    have first := isDigit c mem_cons_self
    rw [stodDecimal, kept]
    split
    rename_i sign digits found
    split at found
    · rename_i isMinus
      rw [(List.cons.inj isMinus).1] at first
      cases first
    · rename_i isPlus
      rw [(List.cons.inj isPlus).1] at first
      cases first
    · rcases Prod.mk.inj found with ⟨isSign, isDigits⟩
      subst isSign isDigits
      simp only [whole, nothing, cons_ne_nil, false_and, if_false, value]
      simp

end OpenRoad.Lib.Words
