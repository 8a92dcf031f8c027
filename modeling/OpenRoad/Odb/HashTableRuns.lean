import OpenRoad.Odb.HashTable

/-! The hash table invariant: the chains of the buckets hold exactly the entries, each in the
bucket of its name, through every insert, remove, grow and shrink. -/

namespace OpenRoad.Odb

open OpenRoad.Lib Function

/-- The chain of bucket `i` is `chains i`, and it holds only objects whose home is `i`. -/
structure Buckets (home next : Nat → Nat) (heads : List Nat) (chains : Nat → List Nat) : Prop where
  chain : ∀ i head, heads[i]? = some head → Chain next head (chains i)
  home : ∀ i id, id ∈ chains i → home id = i

namespace Buckets

variable {home next : Nat → Nat} {heads : List Nat} {chains : Nat → List Nat}

lemma push (buckets : Buckets home next heads chains) (id head : Nat) (nonzero : id ≠ 0)
    (fresh : id ∉ chains (home id)) (present : heads[home id]? = some head) :
    Buckets home (update next id head) (heads.set (home id) id)
      (update chains (home id) (id :: chains (home id))) := by
  have absent : ∀ i, id ∉ chains i := by
    intro i member
    have same := buckets.home i id member
    subst same
    exact fresh member
  constructor
  · intro i found stored
    rcases eq_or_ne i (home id) with same | other
    · subst same
      rw [List.getElem?_set_self (List.getElem?_eq_some_iff.mp present).1] at stored
      rcases Option.some.inj stored with rfl
      rw [update_self]
      apply chain_push id nonzero (update_self id head next)
      exact chain_update_of_notMem id head (absent _) (buckets.chain _ head present)
    · rw [List.getElem?_set_ne other.symm] at stored
      rw [update_of_ne other]
      exact chain_update_of_notMem id head (absent i) (buckets.chain i found stored)
  · intro i other member
    rcases eq_or_ne i (home id) with same | different
    · subst same
      rw [update_self, List.mem_cons] at member
      rcases member with same | old
      · rw [same]
      · exact buckets.home _ other old
    · rw [update_of_ne different] at member
      exact buckets.home i other member

lemma unlink (buckets : Buckets home next heads chains) (front back : List Nat) (id head : Nat)
    (split : chains (home id) = front ++ id :: back) (present : heads[home id]? = some head) :
    if front.getLastD 0 = 0 then
      Buckets home next (heads.set (home id) (next id))
        (update chains (home id) (front ++ back))
    else
      Buckets home (update next (front.getLastD 0) (next id)) heads
        (update chains (home id) (front ++ back)) := by
  have whole := buckets.chain _ head present
  rw [split] at whole
  have homes : ∀ i other, other ∈ update chains (home id) (front ++ back) i →
      home other = i := by
    intro i other member
    rcases eq_or_ne i (home id) with same | different
    · subst same
      rw [update_self] at member
      apply buckets.home _ other
      rw [split]
      exact List.mem_append.mpr ((List.mem_append.mp member).imp_right (List.mem_cons_of_mem id))
    · rw [update_of_ne different] at member
      exact buckets.home i other member
  rcases List.eq_nil_or_concat front with rfl | ⟨before, prev, rfl⟩
  · rw [if_pos (by rfl)]
    refine ⟨?_, homes⟩
    intro i found stored
    rcases eq_or_ne i (home id) with same | other
    · subst same
      rw [List.getElem?_set_self (List.getElem?_eq_some_iff.mp present).1] at stored
      rcases Option.some.inj stored with rfl
      rw [update_self]
      exact whole.2.2
    · rw [List.getElem?_set_ne other.symm] at stored
      rw [update_of_ne other]
      exact buckets.chain i found stored
  · have inChain : prev ∈ chains (home id) := by simp [split]
    have nonzero : prev ≠ 0 := chain_nonzero (buckets.chain _ head present) prev inChain
    have last : (before.concat prev).getLastD 0 = prev := by simp
    rw [last, if_neg nonzero]
    refine ⟨?_, homes⟩
    intro i found stored
    rcases eq_or_ne i (home id) with same | other
    · subst same
      rcases Option.some.inj (present.symm.trans stored) with rfl
      rw [update_self]
      rw [List.concat_eq_append, List.append_assoc, List.singleton_append] at whole ⊢
      exact chain_unlink before back prev id whole
    · rw [update_of_ne other]
      apply chain_update_of_notMem _ _ _ (buckets.chain i found stored)
      intro member
      exact other ((buckets.home i prev member).symm.trans (buckets.home _ prev inChain))

end Buckets

namespace HashTable

variable {κ : Type} {hash : κ → UInt32}

lemma unlinkBucket_spec (fuel : Nat) (ids acc : List Nat) (next : Nat → Nat) (cur entries : Nat)
    (chain : Chain next cur ids) (collected : Chain next entries acc)
    (nodup : (ids ++ acc).Nodup) (enough : ids.length ≤ fuel) :
    ∃ next' entries', unlinkBucket fuel cur (next, entries) = some (next', entries') ∧
      Chain next' entries' (ids.reverse ++ acc) ∧ ∀ id, id ∉ ids → next' id = next id := by
  induction ids generalizing fuel acc next cur entries with
  | nil =>
    have zero : cur = 0 := chain
    refine ⟨next, entries, ?_, collected, fun _ _ => rfl⟩
    cases fuel <;> rw [unlinkBucket, if_pos zero]
  | cons id rest ih =>
    rcases chain with ⟨rfl, nonzero, tail⟩
    cases fuel with
    | zero => simp at enough
    | succ fuel =>
      rw [List.cons_append, List.nodup_cons, List.mem_append, not_or] at nodup
      rcases nodup with ⟨⟨notRest, notAcc⟩, nodup⟩
      have moved : Chain (update next cur entries) cur (cur :: acc) :=
        chain_push cur nonzero (update_self _ _ _)
          (chain_update_of_notMem cur entries notAcc collected)
      have nodup' : (rest ++ cur :: acc).Nodup := by
        rw [List.nodup_middle, List.nodup_cons, List.mem_append, not_or]
        exact ⟨⟨notRest, notAcc⟩, nodup⟩
      rcases ih fuel (cur :: acc) _ (next cur) cur
        (chain_update_of_notMem cur entries notRest tail) moved nodup'
        (Nat.le_of_succ_le_succ enough) with ⟨next', entries', done, linked, kept⟩
      refine ⟨next', entries', ?_, ?_, ?_⟩
      · rw [unlinkBucket, if_neg nonzero, done]
      · rw [List.reverse_cons, List.append_assoc]
        exact linked
      · intro other absent
        rw [List.mem_cons, not_or] at absent
        rw [kept other absent.2, update_of_ne absent.1]

lemma unlinkAll_spec (fuel : Nat) (heads : List Nat) (lists : List (List Nat)) (acc : List Nat)
    (next : Nat → Nat) (entries : Nat) (chains : List.Forall₂ (Chain next) heads lists)
    (collected : Chain next entries acc) (nodup : (lists.flatten ++ acc).Nodup)
    (enough : ∀ ids ∈ lists, ids.length ≤ fuel) :
    ∃ next' entries', unlinkAll fuel heads (next, entries) = some (next', entries') ∧
      Chain next' entries' (lists.flatten.reverse ++ acc) := by
  induction lists generalizing heads acc next entries with
  | nil =>
    cases chains
    exact ⟨next, entries, rfl, collected⟩
  | cons ids lists ih =>
    cases chains with
    | @cons head _ heads _ chain chains =>
    rw [List.flatten_cons, List.append_assoc, List.nodup_append] at nodup
    rcases nodup with ⟨nodupIds, nodupRest, apart⟩
    have apartAcc : ∀ id ∈ ids, id ∉ acc := by
      intro id member inAcc
      exact apart id member id (List.mem_append.mpr (.inr inAcc)) rfl
    have nodupFirst : (ids ++ acc).Nodup := by
      rw [List.nodup_append]
      refine ⟨nodupIds, (List.nodup_append.mp nodupRest).2.1, ?_⟩
      intro id member other inAcc same
      exact apartAcc id member (same ▸ inAcc)
    rcases unlinkBucket_spec fuel ids acc next head entries chain collected nodupFirst
      (enough ids (by simp)) with ⟨next₁, entries₁, first, linked, kept⟩
    have chains₁ : List.Forall₂ (Chain next₁) heads lists := by
      rw [List.forall₂_iff_get] at chains ⊢
      refine ⟨chains.1, ?_⟩
      intro i inHeads inLists
      apply chain_congr _ (chains.2 i inHeads inLists)
      intro id member
      apply kept
      intro inIds
      apply apart id inIds id _ rfl
      exact List.mem_append.mpr (.inl (List.mem_flatten.mpr
        ⟨_, List.get_mem lists ⟨i, inLists⟩, member⟩))
    have nodup₁ : (lists.flatten ++ (ids.reverse ++ acc)).Nodup := by
      have rearranged : (lists.flatten ++ (ids.reverse ++ acc)).Perm
          (ids ++ (lists.flatten ++ acc)) := by
        apply (List.Perm.append_left _ (List.Perm.append_right acc ids.reverse_perm)).trans
        rw [← List.append_assoc, ← List.append_assoc]
        exact List.Perm.append_right acc List.perm_append_comm
      rw [rearranged.nodup_iff, List.nodup_append]
      exact ⟨nodupIds, nodupRest, apart⟩
    rcases ih heads (ids.reverse ++ acc) next₁ entries₁ chains₁ linked nodup₁
      (fun other member => enough other (List.mem_cons_of_mem ids member)) with
      ⟨next', entries', rest, linked'⟩
    refine ⟨next', entries', ?_, ?_⟩
    · rw [unlinkAll, first]
      exact rest
    · rw [List.flatten_cons, List.reverse_append, List.append_assoc]
      exact linked'

lemma relink_spec (home : Nat → Nat) (fuel : Nat) (ids : List Nat) (next : Nat → Nat) (cur : Nat)
    (heads : List Nat) (chains : Nat → List Nat) (chain : Chain next cur ids)
    (buckets : Buckets home next heads chains) (inside : ∀ id ∈ ids, home id < heads.length)
    (fresh : ∀ id ∈ ids, id ∉ chains (home id)) (enough : ids.length ≤ fuel) :
    ∃ next' heads' chains', relink home fuel cur (next, heads) = some (next', heads') ∧
      heads'.length = heads.length ∧ Buckets home next' heads' chains' ∧
      ∀ id, id ∈ chains' (home id) ↔ id ∈ chains (home id) ∨ id ∈ ids := by
  induction ids generalizing fuel next cur heads chains with
  | nil =>
    have zero : cur = 0 := chain
    refine ⟨next, heads, chains, ?_, rfl, buckets, by simp⟩
    cases fuel <;> rw [relink, if_pos zero]
  | cons id rest ih =>
    have notRest := (List.nodup_cons.mp (chain_nodup chain)).1
    rcases chain with ⟨rfl, nonzero, tail⟩
    cases fuel with
    | zero => simp at enough
    | succ fuel =>
      have present := List.getElem?_eq_getElem (inside cur (by simp))
      have pushed := buckets.push cur _ nonzero (fresh cur (by simp)) present
      have grown : ∀ other,
          other ∈ update chains (home cur) (cur :: chains (home cur)) (home other) ↔
            other ∈ chains (home other) ∨ other = cur := by
        intro other
        rcases eq_or_ne (home other) (home cur) with same | different
        · rw [same, update_self, List.mem_cons, or_comm]
        · rw [update_of_ne different]
          exact ⟨.inl, fun either => either.resolve_right fun same => different (same ▸ rfl)⟩
      rcases ih fuel _ (next cur) _ _ (chain_update_of_notMem cur _ notRest tail) pushed
        (fun other member => by
          rw [List.length_set]
          exact inside other (List.mem_cons_of_mem cur member))
        (fun other member => by
          rw [grown, not_or]
          exact ⟨fresh other (List.mem_cons_of_mem cur member), fun same => notRest (same ▸ member)⟩)
        (Nat.le_of_succ_le_succ enough) with
        ⟨next', heads', chains', done, length, buckets', members⟩
      refine ⟨next', heads', chains', ?_, ?_, buckets', ?_⟩
      · rw [relink, if_neg nonzero, present]
        exact done
      · rw [length, List.length_set]
      · intro other
        rw [members, grown, List.mem_cons, or_assoc]

lemma findFrom_spec [DecidableEq κ] (t : HashTable hash) (key : κ) (fuel : Nat) (ids : List Nat)
    (cur : Nat) (chain : Chain t.nextEntry cur ids) (enough : ids.length ≤ fuel) :
    t.findFrom key fuel cur = some (ids.find? fun id => t.name id = key) := by
  induction ids generalizing fuel cur with
  | nil =>
    have zero : cur = 0 := chain
    cases fuel <;> rw [findFrom, if_pos zero] <;> rfl
  | cons id rest ih =>
    rcases chain with ⟨rfl, nonzero, tail⟩
    cases fuel with
    | zero => simp at enough
    | succ fuel =>
      rw [findFrom, if_neg nonzero, List.find?_cons]
      split <;> rename_i same
      · simp [same]
      · simp [same, ih fuel _ tail (Nat.le_of_succ_le_succ enough)]

lemma seek_spec (next : Nat → Nat) (object fuel : Nat) (front back : List Nat) (prev cur : Nat)
    (chain : Chain next cur (front ++ object :: back)) (absent : object ∉ front)
    (enough : front.length < fuel) :
    seek next object fuel prev cur = some (some (front.getLastD prev)) := by
  induction front generalizing fuel prev cur with
  | nil =>
    rcases chain with ⟨rfl, nonzero, _⟩
    cases fuel with
    | zero => simp at enough
    | succ fuel =>
      rw [seek, if_neg nonzero, if_pos rfl]
      rfl
  | cons id rest ih =>
    rcases chain with ⟨rfl, nonzero, tail⟩
    rw [List.mem_cons, not_or] at absent
    cases fuel with
    | zero => simp at enough
    | succ fuel =>
      rw [seek, if_neg nonzero, if_neg (Ne.symm absent.1), List.getLastD_cons]
      exact ih fuel cur (next cur) tail absent.2 (Nat.lt_of_succ_lt_succ enough)

def home (t : HashTable hash) (id : Nat) : Nat := slot hash (t.hashTbl.length - 1) (t.name id)

/-- The chains hold exactly `entries`, each in its home bucket. -/
structure Threaded (t : HashTable hash) (entries : Finset Nat) (chains : Nat → List Nat) : Prop where
  buckets : Buckets t.home t.nextEntry t.hashTbl chains
  mem : ∀ id, id ∈ entries ↔ t.home id < t.hashTbl.length ∧ id ∈ chains (t.home id)

def Sized (t : HashTable hash) : Prop := t.hashTbl = [] ∨ ∃ k, t.hashTbl.length = 2 ^ k

structure Represents (t : HashTable hash) (entries : Finset Nat) (chains : Nat → List Nat) :
    Prop extends Threaded t entries chains where
  sized : Sized t
  count : t.numEntries = entries.card

lemma slot_lt (hash : κ → UInt32) (k : Nat) (name : κ) : slot hash (2 ^ k - 1) name < 2 ^ k := by
  rw [slot, Nat.and_two_pow_sub_one_eq_mod]
  exact Nat.mod_lt _ (Nat.two_pow_pos k)

lemma home_lt (t : HashTable hash) (sized : Sized t) (some : t.hashTbl ≠ []) (id : Nat) :
    t.home id < t.hashTbl.length := by
  rcases sized with none | ⟨k, size⟩
  · exact absurd none some
  · rw [home, size]
    exact slot_lt hash k (t.name id)

variable {t : HashTable hash} {entries : Finset Nat} {chains : Nat → List Nat}

lemma chain_subset (threaded : Threaded t entries chains) (i : Nat)
    (inside : i < t.hashTbl.length) (id : Nat) (member : id ∈ chains i) : id ∈ entries := by
  have same := threaded.buckets.home i id member
  subst same
  exact (threaded.mem id).mpr ⟨inside, member⟩

lemma chain_length_le (threaded : Threaded t entries chains) (i : Nat)
    (inside : i < t.hashTbl.length) : (chains i).length ≤ entries.card := by
  have chain := threaded.buckets.chain i _ (List.getElem?_eq_getElem inside)
  rw [← List.toFinset_card_of_nodup (chain_nodup chain)]
  apply Finset.card_le_card
  intro id member
  exact chain_subset threaded i inside id (List.mem_toFinset.mp member)

def allChains (t : HashTable hash) (chains : Nat → List Nat) : List (List Nat) :=
  (List.range t.hashTbl.length).map chains

lemma mem_allChains (threaded : Threaded t entries chains) (id : Nat) :
    id ∈ (t.allChains chains).flatten ↔ id ∈ entries := by
  simp only [allChains, List.mem_flatten, List.mem_map, List.mem_range]
  constructor
  · intro ⟨_, ⟨i, inside, same⟩, member⟩
    subst same
    exact chain_subset threaded i inside id member
  · intro member
    rcases (threaded.mem id).mp member with ⟨inside, inChain⟩
    exact ⟨_, ⟨t.home id, inside, rfl⟩, inChain⟩

lemma allChains_nodup (threaded : Threaded t entries chains) :
    (t.allChains chains).flatten.Nodup := by
  rw [List.nodup_flatten]
  constructor
  · intro ids member
    simp only [allChains, List.mem_map, List.mem_range] at member
    rcases member with ⟨i, inside, rfl⟩
    exact chain_nodup (threaded.buckets.chain i _ (List.getElem?_eq_getElem inside))
  · rw [allChains, List.pairwise_map]
    apply (List.nodup_range (n := t.hashTbl.length)).imp
    intro i j different id first second
    exact different ((threaded.buckets.home i id first).symm.trans
      (threaded.buckets.home j id second))

lemma allChains_forall₂ (threaded : Threaded t entries chains) :
    List.Forall₂ (Chain t.nextEntry) t.hashTbl (t.allChains chains) := by
  rw [List.forall₂_iff_get]
  refine ⟨by simp [allChains], ?_⟩
  intro i inside _
  have chain := threaded.buckets.chain i _ (List.getElem?_eq_getElem inside)
  simpa [allChains] using chain

lemma rehash_spec (k : Nat) (threaded : Threaded t entries chains)
    (enough : entries.card ≤ t.numEntries) :
    ∃ t' chains', t.rehash (2 ^ k) = some t' ∧ Threaded t' entries chains' ∧
      t'.hashTbl.length = 2 ^ k ∧ t'.numEntries = t.numEntries ∧ t'.name = t.name := by
  have total : (t.allChains chains).flatten.length = entries.card := by
    rw [← List.toFinset_card_of_nodup (allChains_nodup threaded)]
    congr 1
    ext id
    rw [List.mem_toFinset, mem_allChains threaded]
  have short : ∀ ids ∈ t.allChains chains, ids.length ≤ t.numEntries := by
    intro ids member
    simp only [allChains, List.mem_map, List.mem_range] at member
    rcases member with ⟨i, inside, rfl⟩
    exact (chain_length_le threaded i inside).trans enough
  rcases unlinkAll_spec t.numEntries t.hashTbl (t.allChains chains) [] t.nextEntry 0
    (allChains_forall₂ threaded) rfl (by simpa using allChains_nodup threaded) short with
    ⟨next, first, unlinked, list⟩
  rw [List.append_nil] at list
  have none : Buckets (fun id => slot hash (2 ^ k - 1) (t.name id)) next
      (List.replicate (2 ^ k) 0) (fun _ => []) := by
    constructor
    · intro i head present
      rw [List.getElem?_eq_some_iff] at present
      rcases present with ⟨_, rfl⟩
      exact List.getElem_replicate _
    · intro i id member
      cases member
  rcases relink_spec (fun id => slot hash (2 ^ k - 1) (t.name id)) t.numEntries
    (t.allChains chains).flatten.reverse next first (List.replicate (2 ^ k) 0) (fun _ => []) list
    none (fun id _ => by rw [List.length_replicate]; exact slot_lt hash k (t.name id))
    (fun _ _ => List.not_mem_nil) (by rw [List.length_reverse, total]; exact enough) with
    ⟨next', heads', chains', linked, length, buckets, members⟩
  rw [List.length_replicate] at length
  refine ⟨{ t with hashTbl := heads', nextEntry := next' }, chains', ?_, ?_, length, rfl, rfl⟩
  · simp only [rehash, unlinked, Option.bind_eq_bind, Option.bind_some, linked]
  · have homes : home ({ t with hashTbl := heads', nextEntry := next' } : HashTable hash) =
        fun id => slot hash (2 ^ k - 1) (t.name id) := by
      funext id
      rw [home, length]
    refine ⟨by rw [homes]; exact buckets, ?_⟩
    intro id
    have inside := slot_lt hash k (t.name id)
    simp only [homes, length, inside, true_and]
    rw [members, List.mem_reverse, mem_allChains threaded]
    simp

lemma link_spec (threaded : Threaded t entries chains) (sized : Sized t) (nonempty : t.hashTbl ≠ [])
    (object : Nat) (nonzero : object ≠ 0) (fresh : object ∉ entries) :
    ∃ e, t.hashTbl[t.home object]? = some e ∧ Threaded ({ t with
          hashTbl := t.hashTbl.set (t.home object) object
          nextEntry := update t.nextEntry object e } : HashTable hash)
        (Insert.insert object entries)
        (update chains (t.home object) (object :: chains (t.home object))) := by
  have inside := home_lt t sized nonempty
  have notInChain : object ∉ chains (t.home object) := fun member =>
    fresh ((threaded.mem object).mpr ⟨inside object, member⟩)
  have there : ∃ e, t.hashTbl[t.home object]? = some e :=
    ⟨_, List.getElem?_eq_getElem (inside object)⟩
  rcases there with ⟨e, present⟩
  refine ⟨e, present, ?_⟩
  have pushed := threaded.buckets.push object e nonzero notInChain present
  have homes : home ({ t with
      hashTbl := t.hashTbl.set (t.home object) object
      nextEntry := update t.nextEntry object e } : HashTable hash) = t.home := by
    funext id
    simp only [home, List.length_set]
  refine ⟨by rw [homes]; exact pushed, ?_⟩
  intro id
  simp only [homes, List.length_set, inside, true_and, Finset.mem_insert]
  rcases eq_or_ne (t.home id) (t.home object) with same | different
  · rw [same, update_self, List.mem_cons, threaded.mem, same]
    simp [inside]
  · rw [update_of_ne different, threaded.mem]
    constructor
    · intro either
      rcases either with same | ⟨_, member⟩
      · exact absurd (same ▸ rfl) different
      · exact member
    · intro member
      exact .inr ⟨inside id, member⟩

lemma insert_represents (represents : Represents t entries chains) (object : Nat)
    (nonzero : object ≠ 0) (fresh : object ∉ entries) :
    ∃ t' chains', t.insert object = some t' ∧ Represents t' (Insert.insert object entries) chains' ∧
      t'.hashTbl ≠ [] ∧ t'.name = t.name := by
  have card : (Insert.insert object entries).card = entries.card + 1 := Finset.card_insert_of_notMem fresh
  -- what `insert` does before it links the object
  have ready : ∃ ready chains₁, (if t.hashTbl.length = 0 then
          some ({ t with numEntries := t.numEntries + 1, hashTbl := [0] } : HashTable hash)
        else if (t.numEntries + 1) / t.hashTbl.length > kChainLength then
          ({ t with numEntries := t.numEntries + 1 } : HashTable hash).growTable
        else some { t with numEntries := t.numEntries + 1 }) = some ready ∧
      Threaded ready entries chains₁ ∧ Sized ready ∧ ready.hashTbl ≠ [] ∧
      ready.numEntries = entries.card + 1 ∧ ready.name = t.name := by
    have counted : Threaded ({ t with numEntries := t.numEntries + 1 } : HashTable hash) entries
        chains := ⟨represents.buckets, represents.mem⟩
    have number : t.numEntries + 1 = entries.card + 1 := by rw [represents.count]
    rcases represents.sized with none | ⟨k, size⟩
    · have isEmpty : entries = ∅ := by
        apply Finset.eq_empty_of_forall_notMem
        intro id member
        have inside := ((represents.mem id).mp member).1
        rw [none] at inside
        exact absurd inside (Nat.not_lt_zero _)
      rw [if_pos (by rw [none]; rfl)]
      refine ⟨_, fun _ => [], rfl, ⟨⟨?_, ?_⟩, ?_⟩, .inr ⟨0, rfl⟩, by simp, number, rfl⟩
      · intro i head present
        rcases i with _ | i
        · exact (Option.some.inj present).symm
        · simp at present
      · intro i id member
        cases member
      · intro id
        simp [isEmpty]
    · have positive := Nat.two_pow_pos k
      have nonempty : t.hashTbl ≠ [] := by
        intro none
        rw [none] at size
        exact absurd size.symm (Nat.ne_of_gt positive)
      rw [if_neg (by omega)]
      split
      · rcases rehash_spec (k + 1) counted (by simp only [represents.count]; omega) with
          ⟨grown, chains₁, rehashed, threaded, length, same, sameName⟩
        refine ⟨grown, chains₁, ?_, threaded, .inr ⟨k + 1, length⟩, ?_, same.trans number, sameName⟩
        · have double : t.hashTbl.length + t.hashTbl.length = 2 ^ (k + 1) := by
            rw [size, pow_succ]
            omega
          rw [growTable, double]
          exact rehashed
        · intro none
          rw [none] at length
          exact absurd length.symm (Nat.ne_of_gt (Nat.two_pow_pos (k + 1)))
      · exact ⟨_, chains, rfl, counted, .inr ⟨k, size⟩, nonempty, number, rfl⟩
  rcases ready with ⟨ready, chains₁, step, threaded, sized, nonempty, number, sameName⟩
  rcases link_spec threaded sized nonempty object nonzero fresh with ⟨e, present, linked⟩
  refine ⟨_, _, ?_, ⟨linked, ?_, number.trans card.symm⟩, ?_, sameName⟩
  · rw [insert]
    simp only [Option.bind_eq_bind]
    rw [step, Option.bind_some]
    rw [home] at present
    rw [present, Option.bind_some]
    rfl
  · rcases sized with none | ⟨k, size⟩
    · exact absurd none nonempty
    · exact .inr ⟨k, by rw [List.length_set, size]⟩
  · intro none
    have length := congrArg List.length none
    rw [List.length_set] at length
    exact nonempty (List.eq_nil_of_length_eq_zero length)

lemma unlink_spec (threaded : Threaded t entries chains) (enough : entries.card ≤ t.numEntries)
    (object : Nat) (member : object ∈ entries) :
    ∃ (head prev : Nat) (unlinked : HashTable hash), t.hashTbl[t.home object]? = some head ∧
      seek t.nextEntry object t.numEntries 0 head = some (some prev) ∧
      (if prev = 0 then { t with hashTbl := t.hashTbl.set (t.home object) (t.nextEntry object) }
        else { t with nextEntry := update t.nextEntry prev (t.nextEntry object) }) =
        unlinked ∧
      unlinked.hashTbl.length = t.hashTbl.length ∧ unlinked.name = t.name ∧
      ∃ chains', Threaded unlinked (entries.erase object) chains' := by
  rcases (threaded.mem object).mp member with ⟨inside, inChain⟩
  have present := List.getElem?_eq_getElem inside
  rcases List.append_of_mem inChain with ⟨front, back, split⟩
  have chain := threaded.buckets.chain _ _ present
  have short := chain_length_le threaded _ inside
  have nodup := chain_nodup chain
  rw [split] at chain short nodup
  have absent : object ∉ front ∧ object ∉ back := by
    rw [List.nodup_middle, List.nodup_cons, List.mem_append, not_or] at nodup
    exact nodup.1
  have sought := seek_spec t.nextEntry object t.numEntries front back 0 _ chain absent.1 (by
    rw [List.length_append, List.length_cons] at short
    omega)
  have unlinked := threaded.buckets.unlink front back object _ split present
  have members : ∀ id, id ∈ entries.erase object ↔ t.home id < t.hashTbl.length ∧
      id ∈ update chains (t.home object) (front ++ back) (t.home id) := by
    intro id
    rw [Finset.mem_erase, threaded.mem]
    rcases eq_or_ne (t.home id) (t.home object) with same | different
    · rw [same, update_self, split, List.mem_append, List.mem_append, List.mem_cons]
      constructor
      · intro ⟨other, low, either⟩
        rw [or_iff_right other] at either
        exact ⟨low, either⟩
      · intro ⟨low, either⟩
        refine ⟨?_, low, either.imp_right .inr⟩
        intro equal
        rw [equal] at either
        exact either.elim absent.1 absent.2
    · rw [update_of_ne different]
      exact and_iff_right fun same => different (same ▸ rfl)
  refine ⟨_, _, _, present, sought, rfl, ?_⟩
  split at unlinked <;> rename_i atHead
  · rw [if_pos atHead]
    have homes : home ({ t with
        hashTbl := t.hashTbl.set (t.home object) (t.nextEntry object) } : HashTable hash) =
        t.home := by
      funext id
      simp only [home, List.length_set]
    refine ⟨List.length_set, rfl, _, by rw [homes]; exact unlinked, ?_⟩
    simp only [homes, List.length_set]
    exact members
  · rw [if_neg atHead]
    exact ⟨rfl, rfl, _, unlinked, members⟩

lemma remove_represents (represents : Represents t entries chains) (object : Nat)
    (member : object ∈ entries) :
    ∃ t' chains', t.remove object = some t' ∧ Represents t' (entries.erase object) chains' ∧
      t'.hashTbl ≠ [] ∧ t'.name = t.name := by
  have card : (entries.erase object).card = entries.card - 1 := Finset.card_erase_of_mem member
  rcases unlink_spec represents.toThreaded (Nat.le_of_eq represents.count.symm) object member with
    ⟨head, prev, unlinked, present, sought, same, length, sameName, chains', threaded⟩
  have size : ∃ k, t.hashTbl.length = 2 ^ k := by
    rcases represents.sized with none | size
    · rw [none] at present
      cases present
    · exact size
  rcases size with ⟨k, size⟩
  have nonempty : ∀ other : HashTable hash, (∃ j, other.hashTbl.length = 2 ^ j) →
      other.hashTbl ≠ [] := by
    intro other ⟨j, length⟩ none
    rw [none] at length
    exact absurd length.symm (Nat.ne_of_gt (Nat.two_pow_pos j))
  have counted : Threaded ({ unlinked with numEntries := t.numEntries - 1 } : HashTable hash)
      (entries.erase object) chains' := ⟨threaded.buckets, threaded.mem⟩
  have number : t.numEntries - 1 = (entries.erase object).card := by
    rw [card, represents.count]
  have step : t.remove object =
      if (t.numEntries - 1 + (t.numEntries - 1) / 10) / t.hashTbl.length < kChainLength >>> 1 ∧
          t.hashTbl.length > 1 then
        ({ unlinked with numEntries := t.numEntries - 1 } : HashTable hash).shrinkTable
      else some { unlinked with numEntries := t.numEntries - 1 } := by
    rw [home] at present same
    simp only [remove, present, Option.bind_eq_bind, Option.bind_some, sought, same]
  rw [step]
  split <;> rename_i small
  · -- more than one bucket, so half of the buckets is again a power of two
    rcases k with _ | k
    · rw [size] at small
      exact absurd small.2 (Nat.lt_irrefl 1)
    · rcases rehash_spec k counted (Nat.le_of_eq number.symm) with
        ⟨shrunk, chains₁, rehashed, threaded₁, length₁, sameNumber, sameName₁⟩
      have half : unlinked.hashTbl.length >>> 1 = 2 ^ k := by
        rw [length, size, Nat.shiftRight_one, pow_succ]
        omega
      refine ⟨shrunk, chains₁, ?_, ⟨threaded₁, .inr ⟨k, length₁⟩, ?_⟩, nonempty _ ⟨k, length₁⟩, ?_⟩
      · rw [shrinkTable, half]
        exact rehashed
      · exact sameNumber.trans number
      · exact sameName₁.trans sameName
  · exact ⟨_, chains', rfl, ⟨counted, .inr ⟨k, length.trans size⟩, number⟩,
      nonempty _ ⟨k, length.trans size⟩, sameName⟩

lemma write_represents (represents : Represents t entries chains) (object : Nat) (name : κ)
    (next : Nat) (absent : object ∉ entries) :
    Represents (t.write object name next) entries
      (fun i => if i < t.hashTbl.length then chains i else []) := by
  have homes : ∀ id, id ≠ object → (t.write object name next).home id = t.home id := by
    intro id other
    rw [home, write, home]
    simp only [update_of_ne other]
  have notInChain : ∀ i, i < t.hashTbl.length → object ∉ chains i := fun i inside member =>
    absent (chain_subset represents.toThreaded i inside object member)
  refine ⟨⟨⟨?_, ?_⟩, ?_⟩, represents.sized, represents.count⟩
  · intro i head present
    have inside := (List.getElem?_eq_some_iff.mp present).1
    have inside' : i < t.hashTbl.length := inside
    simp only [inside', if_true]
    exact chain_update_of_notMem object next (notInChain i inside)
      (represents.buckets.chain i head present)
  · intro i id member
    split at member
    · rename_i inside
      rw [homes id fun same => notInChain i inside (same ▸ member)]
      exact represents.buckets.home i id member
    · cases member
  · intro id
    rcases eq_or_ne id object with same | other
    · subst same
      constructor
      · intro member
        exact absurd member absent
      · intro ⟨inside, member⟩
        have inside' : (t.write id name next).home id < t.hashTbl.length := inside
        rw [if_pos inside'] at member
        exact absurd member (notInChain _ inside')
    · rw [homes id other, represents.mem]
      constructor
      · intro ⟨inside, member⟩
        exact ⟨inside, by rwa [if_pos inside]⟩
      · intro ⟨inside, member⟩
        have inside' : t.home id < t.hashTbl.length := inside
        rw [if_pos inside'] at member
        exact ⟨inside', member⟩

lemma find_spec [DecidableEq κ] (represents : Represents t entries chains) (key : κ) :
    ∃ result, t.find key = some result ∧ (∀ id, result = some id → id ∈ entries ∧ t.name id = key) ∧
      (result = none → ∀ id ∈ entries, t.name id ≠ key) := by
  rcases represents.sized with noBucket | ⟨k, size⟩
  · refine ⟨none, by rw [find, noBucket]; rfl, by simp, ?_⟩
    intro _ id member
    have inside := ((represents.mem id).mp member).1
    rw [noBucket] at inside
    exact absurd inside (Nat.not_lt_zero _)
  · have inside : slot hash (t.hashTbl.length - 1) key < t.hashTbl.length := by
      rw [size]
      exact slot_lt hash k key
    have present := List.getElem?_eq_getElem inside
    have found := findFrom_spec t key t.numEntries _ _ (represents.buckets.chain _ _ present)
      ((chain_length_le represents.toThreaded _ inside).trans (Nat.le_of_eq represents.count.symm))
    refine ⟨(chains (slot hash (t.hashTbl.length - 1) key)).find? (t.name · = key), ?_, ?_, ?_⟩
    · have notEmpty : t.hashTbl.length ≠ 0 := by
        rw [size]
        exact Nat.ne_of_gt (Nat.two_pow_pos k)
      rw [find, if_neg notEmpty, present]
      exact found
    · intro id hit
      refine ⟨chain_subset represents.toThreaded _ inside id (List.mem_of_find?_eq_some hit), ?_⟩
      simpa using List.find?_some hit
    · intro missed id member same
      have inChain := ((represents.mem id).mp member).2
      rw [home, same] at inChain
      have absent := List.find?_eq_none.mp missed id inChain
      simp [same] at absent

inductive Call (κ : Type) where
  | insert (object : Nat)
  | remove (object : Nat)
  | write (object : Nat) (name : κ) (next : Nat)

def call (t : HashTable hash) : Call κ → Option (HashTable hash)
  | .insert object => t.insert object
  | .remove object => t.remove object
  | .write object name next => some (t.write object name next)

def run (t : HashTable hash) : List (Call κ) → Option (HashTable hash)
  | [] => some t
  | first :: rest => (t.call first).bind fun t₁ => t₁.run rest

def Call.after (entries : Finset Nat) : Call κ → Finset Nat
  | .insert object => Insert.insert object entries
  | .remove object => entries.erase object
  | .write _ _ _ => entries

def Call.Allowed (entries : Finset Nat) : Call κ → Prop
  | .insert object => object ≠ 0 ∧ object ∉ entries
  | .remove object => object ∈ entries
  | .write object _ _ => object ∉ entries

def Call.isInsert : Call κ → Bool
  | .insert _ => true
  | _ => false

def Legal : Finset Nat → List (Call κ) → Prop
  | _, [] => True
  | entries, first :: rest => first.Allowed entries ∧ Legal (first.after entries) rest

lemma call_represents (represents : Represents t entries chains) (step : Call κ)
    (allowed : step.Allowed entries) :
    ∃ t' chains', t.call step = some t' ∧ Represents t' (step.after entries) chains' ∧
      (step.isInsert = true ∨ t.hashTbl ≠ [] → t'.hashTbl ≠ []) := by
  cases step with
  | insert object =>
    rcases insert_represents represents object allowed.1 allowed.2 with
      ⟨t', chains', inserted, represents', nonempty, _⟩
    exact ⟨t', chains', inserted, represents', fun _ => nonempty⟩
  | remove object =>
    rcases remove_represents represents object allowed with
      ⟨t', chains', removed, represents', nonempty, _⟩
    exact ⟨t', chains', removed, represents', fun _ => nonempty⟩
  | write object name next =>
    refine ⟨_, _, rfl, write_represents represents object name next allowed, ?_⟩
    intro either
    rcases either with insert | nonempty
    · cases insert
    · exact nonempty

lemma run_represents (calls : List (Call κ)) (t : HashTable hash) (entries : Finset Nat)
    (chains : Nat → List Nat) (represents : Represents t entries chains)
    (legal : Legal entries calls) :
    ∃ t' chains', t.run calls = some t' ∧ Represents t' (calls.foldl Call.after entries) chains' ∧
      (calls.any Call.isInsert = true ∨ t.hashTbl ≠ [] → t'.hashTbl ≠ []) := by
  induction calls generalizing t entries chains with
  | nil =>
    refine ⟨t, chains, rfl, represents, ?_⟩
    intro either
    rcases either with insert | nonempty
    · cases insert
    · exact nonempty
  | cons first rest ih =>
    rcases legal with ⟨allowed, legal⟩
    rcases call_represents represents first allowed with ⟨t₁, chains₁, step, represents₁, kept₁⟩
    rcases ih t₁ _ chains₁ represents₁ legal with ⟨t', chains', ran, represents', kept⟩
    refine ⟨t', chains', by rw [run, step]; exact ran, represents', ?_⟩
    rw [List.any_cons, Bool.or_eq_true]
    intro either
    apply kept
    rcases either with (insert | later) | nonempty
    · exact .inr (kept₁ (.inl insert))
    · exact .inl later
    · exact .inr (kept₁ (.inr nonempty))

/-- The invariant of a table that holds `entries`. -/
structure Invariant [DecidableEq κ] (t : HashTable hash) (entries : Finset Nat) : Prop where
  chains : ∃ chains : Nat → List Nat, ∀ i head, t.hashTbl[i]? = some head →
    Chain t.nextEntry head (chains i) ∧ (chains i).Nodup ∧
      ∀ id, id ∈ chains i ↔ id ∈ entries ∧ slot hash (t.hashTbl.length - 1) (t.name id) = i
  home : ∀ id ∈ entries, slot hash (t.hashTbl.length - 1) (t.name id) < t.hashTbl.length
  count : t.numEntries = entries.card
  find : ∀ key, ∃ result, t.find key = some result ∧
    (∀ id, result = some id → id ∈ entries ∧ t.name id = key) ∧
    (result = none → ∀ id ∈ entries, t.name id ≠ key)

lemma represents_invariant [DecidableEq κ] (represents : Represents t entries chains) :
    t.Invariant entries := by
  refine ⟨⟨chains, ?_⟩, ?_, represents.count, find_spec represents⟩
  · intro i head present
    have chain := represents.buckets.chain i head present
    have inside := (List.getElem?_eq_some_iff.mp present).1
    refine ⟨chain, chain_nodup chain, ?_⟩
    intro id
    constructor
    · intro member
      exact ⟨chain_subset represents.toThreaded i inside id member,
        represents.buckets.home i id member⟩
    · intro ⟨member, same⟩
      subst same
      exact ((represents.mem id).mp member).2
  · intro id member
    exact ((represents.mem id).mp member).1

lemma empty_represents (name : Nat → κ) (nextEntry : Nat → Nat) :
    Represents (empty name nextEntry : HashTable hash) ∅ (fun _ => []) where
  buckets := ⟨fun i head present => by simp [empty] at present, fun i id member => by cases member⟩
  mem := by intro id; simp
  sized := .inl rfl
  count := rfl

/-- Every legal run ends in a table with the invariant and a power of two of buckets. -/
def RunsExact [DecidableEq κ] (hash : κ → UInt32) : Prop :=
  ∀ (name : Nat → κ) (nextEntry : Nat → Nat) (calls : List (Call κ)), Legal ∅ calls →
    ∃ t : HashTable hash, (empty name nextEntry).run calls = some t ∧
      t.Invariant (calls.foldl Call.after ∅) ∧
      ((t.hashTbl.length = 0 ∧ calls.any Call.isInsert = false) ∨ ∃ k, t.hashTbl.length = 2 ^ k)

lemma runs_exact [DecidableEq κ] (hash : κ → UInt32) : RunsExact hash := by
  intro name nextEntry calls legal
  rcases run_represents calls _ ∅ _ (empty_represents name nextEntry) legal with
    ⟨t, chains, ran, represents, nonempty⟩
  refine ⟨t, ran, represents_invariant represents, ?_⟩
  rcases represents.sized with none | power
  · left
    refine ⟨by rw [none]; rfl, ?_⟩
    rw [Bool.eq_false_iff]
    intro inserted
    exact nonempty (.inl inserted) none
  · exact .inr power

/-- Both tables of the database. -/
theorem hash_tables_exact : RunsExact hashString ∧ RunsExact hashInt :=
  ⟨runs_exact hashString, runs_exact hashInt⟩

/-- The fifth object makes the table grow, and the second one taken out makes it shrink. -/
def resizingCalls : List (Call UInt32) :=
  [.insert 1, .insert 2, .insert 3, .insert 4, .insert 5, .remove 2, .remove 4]

theorem hash_tables_exact_resized :
    (((empty Nat.toUInt32 fun _ => 0 : DbIntHashTable).run (resizingCalls.take 5)).map
        fun t => t.hashTbl.length) = some 2 ∧
      ∃ t : DbIntHashTable, (empty Nat.toUInt32 fun _ => 0 : DbIntHashTable).run resizingCalls = some t ∧
        t.Invariant (resizingCalls.foldl Call.after ∅) ∧
        ((t.hashTbl.length = 0 ∧ resizingCalls.any Call.isInsert = false) ∨
          ∃ k, t.hashTbl.length = 2 ^ k) :=
  ⟨by decide, hash_tables_exact.2 _ _ resizingCalls
    (by simp [resizingCalls, Legal, Call.Allowed, Call.after])⟩

/-- A table without inserts has no bucket, and inserting an object twice ties its chain to a
knot. -/
theorem empty_table_and_double_insert :
    (∀ k, (empty (fun _ => 7) (fun _ => 0) : DbIntHashTable).hashTbl.length ≠ 2 ^ k) ∧
    ∃ t, (empty (fun _ => 7) (fun _ => 0) : DbIntHashTable).run [.insert 1, .insert 1] = some t ∧
      t.hashTbl = [1] ∧ ∀ ids, ¬ Chain t.nextEntry 1 ids := by
  constructor
  · intro k none
    exact absurd none.symm (Nat.ne_of_gt (Nat.two_pow_pos k))
  · refine ⟨_, rfl, rfl, ?_⟩
    intro ids chain
    cases ids with
    | nil => cases chain
    | cons id rest =>
      rcases chain with ⟨rfl, nonzero, tail⟩
      have self : Chain _ 1 (1 :: rest) := ⟨rfl, nonzero, tail⟩
      have same := congrArg List.length (chain_unique self tail)
      rw [List.length_cons] at same
      omega

end HashTable

end OpenRoad.Odb
