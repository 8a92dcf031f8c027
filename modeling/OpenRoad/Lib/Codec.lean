import Mathlib.Tactic
import Mathlib.Data.List.TakeWhile

/-! Bytes of integers and strings, and readers that take what a writer wrote off a stream. -/

namespace OpenRoad.Lib

open List

abbrev CString := { chars : List UInt8 // 0 ∉ chars }

/-- The string that starts at the first of `chars`. -/
def CString.ofChars (chars : List UInt8) : CString :=
  ⟨chars.takeWhile (· ≠ 0), fun member => by simpa using List.mem_takeWhile_imp member⟩

lemma CString.ofChars_val (str : CString) : CString.ofChars str.val = str := by
  apply Subtype.ext
  apply takeWhile_eq_self_iff.mpr
  intro c member
  have nonzero : c ≠ 0 := fun zero => str.property (zero ▸ member)
  simpa using nonzero

/-- The low `count` bytes of a number, lowest first. -/
def bytesLE : Nat → Nat → List UInt8
  | 0, _ => []
  | count + 1, n => UInt8.ofNat n :: bytesLE count (n / 256)

def ofBytesLE : List UInt8 → Nat
  | [] => 0
  | byte :: rest => byte.toNat + 256 * ofBytesLE rest

@[simp] lemma bytesLE_length (count n : Nat) : (bytesLE count n).length = count := by
  induction count generalizing n with
  | zero => rfl
  | succ count ih => rw [bytesLE, length_cons, ih]

lemma ofBytesLE_bytesLE (count n : Nat) (small : n < 256 ^ count) :
    ofBytesLE (bytesLE count n) = n := by
  induction count generalizing n with
  | zero =>
    rw [pow_zero] at small
    exact (Nat.lt_one_iff.mp small).symm
  | succ count ih =>
    have high : n / 256 < 256 ^ count := by
      apply Nat.div_lt_of_lt_mul
      rwa [pow_succ, Nat.mul_comm] at small
    rw [bytesLE, ofBytesLE, ih _ high, UInt8.toNat_ofNat']
    omega

variable {τ β γ : Type}

abbrev Reader (τ β : Type) := StateT (List τ) Option β

def ReadsBack (read : Reader τ β) (written : List τ) (value : β) : Prop :=
  ∀ rest, read.run (written ++ rest) = some (value, rest)

structure Codec (τ β : Type) where
  write : β → List τ
  read : Reader τ β
  readsBack : ∀ value, ReadsBack read (write value) value

lemma readsBack_pure (value : β) : ReadsBack (pure value : Reader τ β) [] value := by
  intro rest
  rfl

variable {read : Reader τ β}

lemma readsBack_bind {next : β → Reader τ γ} {written more : List τ} {value : β} {result : γ}
    (first : ReadsBack read written value) (second : ReadsBack (next value) more result) :
    ReadsBack (read >>= next) (written ++ more) result := by
  intro rest
  rw [append_assoc, StateT.run_bind, first (more ++ rest)]
  exact second rest

lemma readsBack_cons {next : β → Reader τ γ} {item : τ} {more : List τ} {value : β} {result : γ}
    (first : ReadsBack read [item] value) (second : ReadsBack (next value) more result) :
    ReadsBack (read >>= next) (item :: more) result :=
  readsBack_bind first second

lemma readsBack_map {written : List τ} {value : β} (f : β → γ)
    (first : ReadsBack read written value) :
    ReadsBack (read >>= fun found => pure (f found)) written (f value) := by
  have both : ReadsBack (read >>= fun found => pure (f found)) (written ++ []) (f value) :=
    readsBack_bind first (readsBack_pure (f value))
  rwa [append_nil] at both

/-- `for (i = first; ...; i++) write(i, values[i])`. -/
def writeMany (write : Nat → β → List τ) : Nat → List β → List τ
  | _, [] => []
  | index, value :: rest => write index value ++ writeMany write (index + 1) rest

/-- `for (i = first; ...; i++) values[i] = read(i)`, for the given number of values. -/
def readMany (read : Nat → Reader τ β) : Nat → Nat → Reader τ (List β)
  | _, 0 => pure []
  | index, count + 1 => do
    let value ← read index
    let rest ← readMany read (index + 1) count
    pure (value :: rest)

lemma readMany_readsBack (read : Nat → Reader τ β) (write : Nat → β → List τ) (index : Nat)
    (values : List β)
    (each : ∀ offset value, values[offset]? = some value →
      ReadsBack (read (index + offset)) (write (index + offset) value) value) :
    ReadsBack (readMany read index values.length) (writeMany write index values) values := by
  induction values generalizing index with
  | nil => exact readsBack_pure []
  | cons value rest ih =>
    have head := each 0 value rfl
    have tail := ih (index + 1) fun offset found present => by
      have later := each (offset + 1) found present
      rwa [← Nat.add_assoc, Nat.add_right_comm] at later
    exact readsBack_bind head (readsBack_map (value :: ·) tail)

/-- `items` stand in `data` from position `start` on. -/
def At (data : List τ) (start : Nat) (items : List τ) : Prop := items <+: data.drop start

variable {data : List τ} {start : Nat}

lemma at_append {front back : List τ} (both : At data start (front ++ back)) :
    At data start front ∧ At data (start + front.length) back := by
  rcases both with ⟨rest, split⟩
  rw [append_assoc] at split
  refine ⟨⟨_, split⟩, rest, ?_⟩
  rw [← drop_drop, ← split, drop_left]

lemma at_cons {item : τ} {rest : List τ} (both : At data start (item :: rest)) :
    data[start]? = some item ∧ At data (start + 1) rest := by
  have parts : At data start [item] ∧ At data (start + 1) rest := at_append both
  rcases parts with ⟨⟨others, split⟩, later⟩
  refine ⟨?_, later⟩
  rw [← head?_drop, ← split]
  rfl

lemma at_bound {items : List τ} (there : At data start items) (some : items ≠ []) :
    start + items.length ≤ data.length := by
  have short := there.length_le
  have positive := List.length_pos_of_ne_nil some
  rw [length_drop] at short
  omega

end OpenRoad.Lib
