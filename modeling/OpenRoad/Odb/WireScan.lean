import OpenRoad.Odb.WireCodec

/-! What the backward search of `getPrevPoint` finds, op by op. -/

namespace OpenRoad.Odb

open Option

lemma or_and_byte (a b mask : UInt8) : (a ||| b) &&& mask = (a &&& mask) ||| (b &&& mask) := by
  apply UInt8.toBitVec_inj.mp
  exact BitVec.and_or_distrib_right

lemma opOf_code (op : WireOp) (flags : UInt8) (free : flags &&& WOP_OPCODE_MASK = 0) :
    opOf (op.code ||| flags) = some op := by
  rw [opOf, or_and_byte, free, UInt8.or_zero]
  cases op <;> decide

lemma opOf_plain (op : WireOp) : opOf op.code = some op := by cases op <;> decide

lemma hasFlag_code (op : WireOp) (flags flag : UInt8) (free : op.code &&& flag = 0) :
    hasFlag (op.code ||| flags) flag = hasFlag flags flag := by
  rw [hasFlag, hasFlag, or_and_byte, free, UInt8.zero_or]

variable {tech : WireTech} {ops : List Op} {hasX hasY : Bool} {found : WirePoint}

/-- The result of a search that finds `found`, and no layer where `found` has none. -/
def searchResult (found : WirePoint) (lookForX lookForY getLayer : Bool) (pnt : WirePoint) :
    Option WirePoint :=
  if getLayer = true ∧ found.layer = none then none
  else some ⟨if lookForX then found.x else pnt.x, if lookForY then found.y else pnt.y,
    if getLayer then found.layer else pnt.layer⟩

def Sought (hasX hasY lookForX lookForY getLayer : Bool) : Prop :=
  (lookForX = true → hasX = true) ∧ (lookForY = true → hasY = true) ∧
    (lookForX || lookForY || getLayer) = true

/-- From op `i` on backwards the search finds `found`, whatever is appended. It needs at most
`i + 1` steps. -/
def Shows (tech : WireTech) (ops : List Op) (i : Nat) (hasX hasY : Bool) (found : WirePoint) :
    Prop :=
  ∀ more fuel lookForX lookForY getLayer pnt, i < fuel →
    Sought hasX hasY lookForX lookForY getLayer →
    getPrevPoint tech (ops ++ more) fuel i lookForX lookForY getLayer pnt =
      searchResult found lookForX lookForY getLayer pnt

lemma shows_append {i : Nat} (more : List Op) (shown : Shows tech ops i hasX hasY found) :
    Shows tech (ops ++ more) i hasX hasY found := by
  intro more' fuel lookForX lookForY getLayer pnt enough sought
  rw [List.append_assoc]
  exact shown (more ++ more') fuel lookForX lookForY getLayer pnt enough sought

lemma shows_junctionPoint {i : Nat} (shown : Shows tech ops i true true found) :
    junctionPoint tech ops i = if found.layer = none then none else some found := by
  have all := shown [] (i + 1) true true true ⟨0, 0, none⟩ (Nat.lt_succ_self i)
    ⟨fun _ => rfl, fun _ => rfl, rfl⟩
  rw [List.append_nil] at all
  rw [junctionPoint, all]
  simp [searchResult]

/-- The search backwards from behind the last op. -/
def ShowsLast (tech : WireTech) (ops : List Op) (hasX hasY : Bool) (found : WirePoint) : Prop :=
  ∀ more fuel lookForX lookForY getLayer pnt, ops.length ≤ fuel →
    Sought hasX hasY lookForX lookForY getLayer →
    (if ops.length = 0 then none
      else getPrevPoint tech (ops ++ more) fuel (ops.length - 1) lookForX lookForY getLayer pnt) =
      searchResult found lookForX lookForY getLayer pnt

lemma showsLast_nil (x y : Int) : ShowsLast tech [] false false ⟨x, y, none⟩ := by
  intro more fuel lookForX lookForY getLayer pnt _ sought
  rcases sought with ⟨noX, noY, sought⟩
  cases lookForX <;> cases lookForY <;> cases getLayer <;> simp_all [searchResult]

lemma shows_last {i : Nat} (length : ops.length = i + 1)
    (last : ShowsLast tech ops hasX hasY found) : Shows tech ops i hasX hasY found := by
  intro more fuel lookForX lookForY getLayer pnt enough sought
  have result := last more fuel lookForX lookForY getLayer pnt (by omega) sought
  rw [length] at result
  simpa using result

lemma showsLast_of_shows {i : Nat} (length : ops.length = i + 1)
    (shown : Shows tech ops i hasX hasY found) : ShowsLast tech ops hasX hasY found := by
  intro more fuel lookForX lookForY getLayer pnt enough sought
  rw [length, if_neg (Nat.succ_ne_zero i), Nat.add_sub_cancel]
  exact shown more fuel lookForX lookForY getLayer pnt (by omega) sought

lemma showsLast_forget (x y : Int) (last : ShowsLast tech ops hasX hasY found) :
    ShowsLast tech ops false false ⟨x, y, found.layer⟩ := by
  intro more fuel lookForX lookForY getLayer pnt enough sought
  rcases sought with ⟨noX, noY, sought⟩
  cases lookForX
  · cases lookForY
    · have result := last more fuel false false getLayer pnt enough
        (And.intro (by simp) (And.intro (by simp) sought))
      simpa [searchResult] using result
    · exact absurd (noY rfl) (by decide)
  · exact absurd (noX rfl) (by decide)

def WireOp.passed : WireOp → Bool
  | .kPath | .kShort | .kJunction | .kX | .kY | .kVia | .kTechVia => false
  | _ => true

lemma showsLast_snoc (op : Op) {hasX' hasY' : Bool} {found' : WirePoint}
    (last : ShowsLast tech ops hasX hasY found)
    (read : ∀ all fuel lookForX lookForY getLayer pnt, all[ops.length]? = some op →
      (∀ lookForX lookForY getLayer pnt, Sought hasX hasY lookForX lookForY getLayer →
        (if ops.length = 0 then none
          else getPrevPoint tech all fuel (ops.length - 1) lookForX lookForY getLayer pnt) =
          searchResult found lookForX lookForY getLayer pnt) →
      Sought hasX' hasY' lookForX lookForY getLayer →
      getPrevPoint tech all (fuel + 1) ops.length lookForX lookForY getLayer pnt =
        searchResult found' lookForX lookForY getLayer pnt) :
    ShowsLast tech (ops ++ [op]) hasX' hasY' found' := by
  have length : (ops ++ [op]).length = ops.length + 1 := List.length_append
  apply showsLast_of_shows length
  intro more fuel lookForX lookForY getLayer pnt enough sought
  cases fuel with
  | zero => exact absurd enough (Nat.not_lt_zero _)
  | succ fuel =>
    apply read (ops ++ [op] ++ more) fuel lookForX lookForY getLayer pnt
    · simp
    · intro lookForX lookForY getLayer pnt sought
      rw [List.append_assoc]
      exact last ([op] ++ more) fuel lookForX lookForY getLayer pnt (by omega) sought
    · exact sought

attribute [local simp] getPrevPoint

variable (byte : UInt8) (value : Int)

lemma shows_passed (op : WireOp) (kind : opOf byte = some op) (passed : op.passed = true)
    (last : ShowsLast tech ops hasX hasY found) :
    ShowsLast tech (ops ++ [(byte, value)]) hasX hasY found := by
  apply showsLast_snoc _ last
  intro all fuel lookForX lookForY getLayer pnt present back sought
  rw [getPrevPoint, present]
  simp only [bind_eq_bind, bind_some, kind]
  cases op <;> first | exact back _ _ _ _ sought | simp [WireOp.passed] at passed

section Branch

/-! What the search does with a coordinate or a layer, over any `back` that finds `found`. -/

variable (back : Bool → Bool → Bool → WirePoint → Option WirePoint)
  (finds : ∀ lookForX lookForY getLayer pnt, Sought hasX hasY lookForX lookForY getLayer →
    back lookForX lookForY getLayer pnt = searchResult found lookForX lookForY getLayer pnt)
  (lookForX lookForY getLayer : Bool) (pnt : WirePoint)

include finds

lemma read_x (value : Int) (sought : Sought true hasY lookForX lookForY getLayer) :
    (if lookForX then
        if !lookForY && !getLayer then some { pnt with x := value }
        else back false lookForY getLayer { pnt with x := value }
      else back lookForX lookForY getLayer pnt) =
      searchResult { found with x := value } lookForX lookForY getLayer pnt := by
  rcases sought with ⟨_, noY, some'⟩
  cases lookForX with
  | false =>
    have behind := finds false lookForY getLayer pnt ⟨by simp, noY, some'⟩
    exact behind
  | true =>
    have behind := finds false lookForY getLayer { pnt with x := value }
    cases lookForY <;> cases getLayer
    · rfl
    · exact behind ⟨by simp, noY, rfl⟩
    · exact behind ⟨by simp, noY, rfl⟩
    · exact behind ⟨by simp, noY, rfl⟩

lemma read_y (value : Int) (sought : Sought hasX true lookForX lookForY getLayer) :
    (if lookForY then
        if !lookForX && !getLayer then some { pnt with y := value }
        else back lookForX false getLayer { pnt with y := value }
      else back lookForX lookForY getLayer pnt) =
      searchResult { found with y := value } lookForX lookForY getLayer pnt := by
  rcases sought with ⟨noX, _, some'⟩
  cases lookForY with
  | false =>
    have behind := finds lookForX false getLayer pnt ⟨noX, by simp, some'⟩
    exact behind
  | true =>
    have behind := finds lookForX false getLayer { pnt with y := value }
    cases lookForX <;> cases getLayer
    · rfl
    · exact behind ⟨noX, by simp, rfl⟩
    · exact behind ⟨noX, by simp, rfl⟩
    · exact behind ⟨noX, by simp, rfl⟩

lemma read_layer (layer : Nat) (sought : Sought hasX hasY lookForX lookForY getLayer) :
    (if getLayer then
        if !lookForX && !lookForY then some { pnt with layer := some layer }
        else back lookForX lookForY false { pnt with layer := some layer }
      else back lookForX lookForY getLayer pnt) =
      searchResult { found with layer := some layer } lookForX lookForY getLayer pnt := by
  rcases sought with ⟨noX, noY, some'⟩
  cases getLayer with
  | false =>
    have behind := finds lookForX lookForY false pnt ⟨noX, noY, some'⟩
    simpa [searchResult] using behind
  | true =>
    have behind := finds lookForX lookForY false { pnt with layer := some layer }
    cases lookForX <;> cases lookForY
    · rfl
    · simpa [searchResult] using behind ⟨noX, noY, rfl⟩
    · simpa [searchResult] using behind ⟨noX, noY, rfl⟩
    · simpa [searchResult] using behind ⟨noX, noY, rfl⟩

end Branch

lemma shows_x (kind : opOf byte = some .kX) (last : ShowsLast tech ops hasX hasY found) :
    ShowsLast tech (ops ++ [(byte, value)]) true hasY { found with x := value } := by
  apply showsLast_snoc _ last
  intro all fuel lookForX lookForY getLayer pnt present back sought
  rw [getPrevPoint, present]
  simp only [bind_eq_bind, bind_some, kind]
  exact read_x _ back lookForX lookForY getLayer pnt value sought

lemma shows_y (kind : opOf byte = some .kY) (last : ShowsLast tech ops hasX hasY found) :
    ShowsLast tech (ops ++ [(byte, value)]) hasX true { found with y := value } := by
  apply showsLast_snoc _ last
  intro all fuel lookForX lookForY getLayer pnt present back sought
  rw [getPrevPoint, present]
  simp only [bind_eq_bind, bind_some, kind]
  exact read_y _ back lookForX lookForY getLayer pnt value sought

lemma shows_via (kind : opOf byte = some .kVia) (last : ShowsLast tech ops hasX hasY found) :
    ShowsLast tech (ops ++ [(byte, value)]) hasX hasY { found with
      layer := some (if hasFlag byte WOP_VIA_EXIT_TOP then tech.viaTop value.toNat
        else tech.viaBottom value.toNat) } := by
  apply showsLast_snoc _ last
  intro all fuel lookForX lookForY getLayer pnt present back sought
  rw [getPrevPoint, present]
  simp only [bind_eq_bind, bind_some, kind]
  exact read_layer _ back lookForX lookForY getLayer pnt _ sought

lemma shows_techVia (kind : opOf byte = some .kTechVia)
    (last : ShowsLast tech ops hasX hasY found) :
    ShowsLast tech (ops ++ [(byte, value)]) hasX hasY { found with
      layer := some (if hasFlag byte WOP_VIA_EXIT_TOP then tech.techViaTop value.toNat
        else tech.techViaBottom value.toNat) } := by
  apply showsLast_snoc _ last
  intro all fuel lookForX lookForY getLayer pnt present back sought
  rw [getPrevPoint, present]
  simp only [bind_eq_bind, bind_some, kind]
  exact read_layer _ back lookForX lookForY getLayer pnt _ sought

lemma shows_start (kind : opOf byte = some .kPath ∨ opOf byte = some .kShort)
    (last : ShowsLast tech ops hasX hasY found) :
    ShowsLast tech (ops ++ [(byte, value)]) hasX hasY { found with layer := some value.toNat } := by
  apply showsLast_snoc _ last
  intro all fuel lookForX lookForY getLayer pnt present back sought
  rw [getPrevPoint, present]
  rcases kind with kind | kind <;> simp only [bind_eq_bind, bind_some, kind]
  · exact read_layer _ back lookForX lookForY getLayer pnt _ sought
  · exact read_layer _ back lookForX lookForY getLayer pnt _ sought

lemma shows_junction (byte : UInt8) (jctId : Nat) (kind : opOf byte = some .kJunction)
    (earlier : jctId < ops.length) (shown : Shows tech ops jctId hasX hasY found) :
    ShowsLast tech (ops ++ [(byte, (jctId : Int))]) hasX hasY found := by
  have length : (ops ++ [(byte, (jctId : Int))]).length = ops.length + 1 := List.length_append
  apply showsLast_of_shows length
  intro more fuel lookForX lookForY getLayer pnt enough sought
  cases fuel with
  | zero => exact absurd enough (Nat.not_lt_zero _)
  | succ fuel =>
    have present : (ops ++ [(byte, (jctId : Int))] ++ more)[ops.length]? =
        some (byte, (jctId : Int)) := by simp
    rw [getPrevPoint, present]
    simp only [bind_eq_bind, bind_some, kind, Int.toNat_natCast]
    rw [List.append_assoc]
    exact shown _ fuel lookForX lookForY getLayer pnt (by omega) sought

end OpenRoad.Odb
