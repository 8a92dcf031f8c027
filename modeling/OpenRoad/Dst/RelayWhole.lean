import OpenRoad.Dst.Broadcasts

/-! When a relayed job and its answer arrive whole. -/

namespace OpenRoad.Dst

open List

def Trial.Sends : Trial → Prop
  | refused => False
  | broken sent => 0 < sent
  | cut _ => True
  | answered _ => True

def Trial.Answers (trial : Trial) : Prop := ∃ output, trial = answered output

def Trial.handed (trial : Trial) (in_packet : Data) : Option Data :=
  if trial = refused then none else some in_packet

def Trial.left (trial : Trial) (in_packet : Data) : Data :=
  match trial with
  | refused => in_packet
  | broken sent => in_packet.drop sent
  | _ => []

def Trial.output : Trial → Data
  | cut output => output
  | answered output => output
  | _ => []

lemma left_of_keeps {trial : Trial} {in_packet : Data} (keeps : ¬ trial.Sends) :
    trial.left in_packet = in_packet := by
  cases trial with
  | refused => rfl
  | broken sent =>
    have none : sent = 0 := Nat.eq_zero_of_not_pos keeps
    rw [none]
    rfl
  | cut output => exact absurd trivial keeps
  | answered output => exact absurd trivial keeps

lemma output_of_keeps {trial : Trial} (keeps : ¬ trial.Sends) : trial.output = [] := by
  cases trial with
  | refused => rfl
  | broken sent => rfl
  | cut output => exact absurd trivial keeps
  | answered output => exact absurd trivial keeps

lemma left_ne {trial : Trial} {in_packet : Data} (notEmpty : in_packet ≠ [])
    (sends : trial.Sends) : trial.left in_packet ≠ in_packet := by
  intro same
  have length := congrArg List.length same
  have positive := length_pos_of_ne_nil notEmpty
  cases trial with
  | refused => exact sends
  | broken sent =>
    have some : 0 < sent := sends
    simp only [Trial.left, length_drop] at length
    omega
  | cut output => exact notEmpty same.symm
  | answered output => exact notEmpty same.symm

section

variable {queue : Top} {trials : Nat → Trial} {address : Address} {s : RelayState}

lemma tryWorker_eq (address : Address) (trial : Trial) (s : RelayState) :
    (tryWorker address trial s).1 =
      ⟨s.workers, trial.left s.in_packet, s.receive_buffer ++ trial.output,
        s.attempts ++ [⟨address, trial.handed s.in_packet, trial⟩]⟩ := by
  cases trial with
  | refused => simp [tryWorker, Trial.left, Trial.output, Trial.handed]
  | broken sent => simp [tryWorker, Trial.left, Trial.output, Trial.handed]
  | cut output | answered output => simp [tryWorker, Trial.left, Trial.output, Trial.handed]

lemma tryWorker_failed (address : Address) (trial : Trial) (s : RelayState) :
    (tryWorker address trial s).2 = false ↔ trial.Answers := by
  cases trial with
  | answered output => exact iff_of_true rfl ⟨output, rfl⟩
  | refused => exact iff_of_false nofun nofun
  | broken sent => exact iff_of_false nofun nofun
  | cut output => exact iff_of_false nofun nofun

/-- What the buffers hold after a try, and that it is listed. -/
structure Tried (address : Address) (trial : Trial) (s next : RelayState) : Prop where
  in_packet : next.in_packet = trial.left s.in_packet
  receive_buffer : next.receive_buffer = s.receive_buffer ++ trial.output
  attempts : next.attempts = s.attempts ++ [⟨address, trial.handed s.in_packet, trial⟩]

lemma tryWorker_tried (address : Address) (trial : Trial) (s : RelayState)
    (workers : List Worker) :
    Tried address trial s { (tryWorker address trial s).1 with workers } := by
  rw [tryWorker_eq]
  exact ⟨rfl, rfl, rfl⟩

lemma relayLoop_answered (queue : Top) (remaining : Nat) (address : Address) (s : RelayState)
    {trial : Nat} (answers : (trials trial).Answers) :
    ∃ next, relayLoop queue trials (remaining + 1) trial address s = (next, false) ∧
      Tried address (trials trial) s next := by
  have failed := (tryWorker_failed address (trials trial) s).mpr answers
  rw [relayLoop, show tryWorker address (trials trial) s = (_, _) from (Prod.mk.eta).symm, failed]
  exact ⟨_, rfl, tryWorker_tried address (trials trial) s _⟩

lemma relayLoop_failed (queue : Top) (remaining : Nat) (address : Address) (s : RelayState)
    {trial : Nat} (fails : ¬ (trials trial).Answers) :
    ∃ address' next, relayLoop queue trials (remaining + 1) trial address s =
      relayLoop queue trials remaining (trial + 1) address' next ∧
        Tried address (trials trial) s next := by
  have failed : (tryWorker address (trials trial) s).2 = true := by
    rw [← Bool.not_eq_false, tryWorker_failed]
    exact fails
  rw [relayLoop, show tryWorker address (trials trial) s = (_, _) from (Prod.mk.eta).symm, failed]
  dsimp only
  split
  · rename_i isLast
    subst isLast
    exact ⟨address, _, rfl, tryWorker_tried address (trials trial) s _⟩
  · exact ⟨_, _, rfl, tryWorker_tried address (trials trial) s _⟩

variable (remaining trial : Nat)

lemma relayLoop_attempts (address : Address) (s : RelayState) :
    s.attempts <+: (relayLoop queue trials remaining trial address s).1.attempts := by
  induction remaining generalizing trial address s with
  | zero => exact prefix_rfl
  | succ remaining ih =>
    by_cases answers : (trials trial).Answers
    · rcases relayLoop_answered queue remaining address s answers with ⟨next, isNext, tried⟩
      rw [isNext, tried.attempts]
      exact prefix_append _ _
    · rcases relayLoop_failed queue remaining address s answers with ⟨address', next, isNext, tried⟩
      rw [isNext]
      have later := ih (trial + 1) address' next
      rw [tried.attempts] at later
      exact (prefix_append _ _).trans later

lemma relayLoop_lists (address : Address) (s : RelayState) :
    ⟨address, (trials trial).handed s.in_packet, trials trial⟩ ∈
      (relayLoop queue trials (remaining + 1) trial address s).1.attempts := by
  by_cases answers : (trials trial).Answers
  · rcases relayLoop_answered queue remaining address s answers with ⟨next, isNext, tried⟩
    rw [isNext, tried.attempts]
    exact mem_concat_self
  · rcases relayLoop_failed queue remaining address s answers with ⟨address', next, isNext, tried⟩
    rw [isNext]
    apply (relayLoop_attempts remaining (trial + 1) address' next).subset
    rw [tried.attempts]
    exact mem_concat_self

def Sent (job : Data) (attempts : List Attempt) : Prop :=
  ∀ attempt ∈ attempts, ∀ given ∈ attempt.handed, given = job

instance (job : Data) (attempts : List Attempt) : Decidable (Sent job attempts) :=
  inferInstanceAs (Decidable (∀ attempt ∈ attempts, ∀ given ∈ attempt.handed, given = job))

lemma sent_concat (job : Data) (attempts : List Attempt) (attempt : Attempt) :
    Sent job (attempts ++ [attempt]) ↔
      Sent job attempts ∧ ∀ given ∈ attempt.handed, given = job := by
  simp [Sent, or_imp, forall_and]

lemma handed_whole (trial : Trial) (in_packet job : Data) :
    (∀ given ∈ trial.handed in_packet, given = job) ↔ trial = .refused ∨ in_packet = job := by
  rw [Trial.handed]
  split
  · rename_i isRefused
    exact iff_of_true nofun (.inl isRefused)
  · rename_i notRefused
    simp [notRefused]

def AllRefused (trials : Nat → Trial) (first last : Nat) : Prop :=
  ∀ j, first ≤ j → j < last → trials j = .refused

def Harmless (trials : Nat → Trial) (first last : Nat) : Prop :=
  ∀ i j, first ≤ i → i < j → j < last →
    (∀ k, first ≤ k → k < j → ¬ (trials k).Answers) → (trials i).Sends → trials j = .refused

lemma allRefused_cons {first last : Nat} (inside : first < last) : AllRefused trials first last ↔
      trials first = .refused ∧ AllRefused trials (first + 1) last := by
  constructor
  · intro all
    exact ⟨all first le_rfl inside, fun j after before => all j (by omega) before⟩
  · rintro ⟨here, rest⟩ j after before
    rcases Nat.eq_or_lt_of_le after with rfl | later
    · exact here
    · exact rest j later before

lemma harmless_of_answers {first last : Nat} (answers : (trials first).Answers) :
    Harmless trials first last := by
  intro i j after less before unanswered sends
  exact absurd answers (unanswered first le_rfl (by omega))

lemma harmless_of_keeps {first last : Nat} (fails : ¬ (trials first).Answers)
    (keeps : ¬ (trials first).Sends) :
    Harmless trials first last ↔ Harmless trials (first + 1) last := by
  constructor
  · intro harmless i j after less before unanswered sends
    refine harmless i j (by omega) less before (fun k afterK beforeK => ?_) sends
    rcases Nat.eq_or_lt_of_le afterK with rfl | later
    · exact fails
    · exact unanswered k later beforeK
  · intro harmless i j after less before unanswered sends
    rcases Nat.eq_or_lt_of_le after with rfl | later
    · exact absurd sends keeps
    · exact harmless i j later less before (fun k afterK => unanswered k (by omega)) sends

lemma harmless_of_sends {first last : Nat} (fails : ¬ (trials first).Answers)
    (sends : (trials first).Sends) :
    Harmless trials first last ↔ AllRefused trials (first + 1) last := by
  constructor
  · intro harmless j
    -- by induction none of the tries between answers
    induction j using Nat.strong_induction_on with
    | _ j ih =>
      intro after before
      refine harmless first j le_rfl (by omega) before (fun k afterK beforeK => ?_) sends
      rcases Nat.eq_or_lt_of_le afterK with rfl | later
      · exact fails
      · rw [ih k beforeK later (by omega)]
        exact nofun
  · intro all i j after less before _ _
    exact all j (by omega) before

lemma sent_of_spoiled {job : Data} (remaining trial : Nat) (address : Address) (s : RelayState)
    (spoiled : s.in_packet ≠ job) :
    Sent job (relayLoop queue trials remaining trial address s).1.attempts ↔
      Sent job s.attempts ∧ AllRefused trials trial (trial + remaining) := by
  induction remaining generalizing trial address s with
  | zero =>
    have none : AllRefused trials trial (trial + 0) := fun j after before => by omega
    exact (and_iff_left none).symm
  | succ remaining ih =>
    rw [allRefused_cons (by omega : trial < trial + (remaining + 1))]
    by_cases refuses : trials trial = .refused
    · have fails : ¬ (trials trial).Answers := by
        rw [refuses]
        exact nofun
      rcases relayLoop_failed queue remaining address s fails with ⟨address', next, isNext, tried⟩
      have stillSpoiled : next.in_packet ≠ job := by
        rw [tried.in_packet, refuses]
        exact spoiled
      rw [isNext, ih (trial + 1) address' next stillSpoiled, tried.attempts, sent_concat,
        handed_whole, show trial + 1 + remaining = trial + (remaining + 1) by omega]
      simp [refuses]
    · refine iff_of_false (fun sent => ?_) fun both => refuses both.2.1
      have here := sent _ (relayLoop_lists remaining trial address s)
      exact ((handed_whole _ _ _).mp here).elim refuses spoiled

lemma sent_of_whole {job : Data} (notEmpty : job ≠ []) (remaining trial : Nat)
    (address : Address) (s : RelayState) (whole : s.in_packet = job) :
    Sent job (relayLoop queue trials remaining trial address s).1.attempts ↔
      Sent job s.attempts ∧ Harmless trials trial (trial + remaining) := by
  induction remaining generalizing trial address s with
  | zero =>
    have none : Harmless trials trial (trial + 0) := fun i j _ _ _ => by omega
    exact (and_iff_left none).symm
  | succ remaining ih =>
    have given : ∀ d ∈ (trials trial).handed s.in_packet, d = job :=
      (handed_whole _ _ _).mpr (.inr whole)
    have last : trial + 1 + remaining = trial + (remaining + 1) := by omega
    by_cases answers : (trials trial).Answers
    · rcases relayLoop_answered queue remaining address s answers with ⟨next, isNext, tried⟩
      rw [isNext, tried.attempts, sent_concat]
      exact and_congr_right fun _ => iff_of_true given (harmless_of_answers answers)
    · rcases relayLoop_failed queue remaining address s answers with
        ⟨address', next, isNext, tried⟩
      have attempts : Sent job next.attempts ↔ Sent job s.attempts := by
        rw [tried.attempts, sent_concat]
        exact and_iff_left given
      by_cases sends : (trials trial).Sends
      · have spoiled : next.in_packet ≠ job := by
          rw [tried.in_packet, whole]
          exact left_ne notEmpty sends
        rw [isNext, sent_of_spoiled remaining (trial + 1) address' next spoiled, attempts, last,
          harmless_of_sends answers sends]
      · have stillWhole : next.in_packet = job := by
          rw [tried.in_packet, left_of_keeps sends, whole]
        rw [isNext, ih (trial + 1) address' next stillWhole, attempts, last,
          harmless_of_keeps answers sends]

lemma relayLoop_refused (address : Address) (s : RelayState)
    (refused : AllRefused trials trial (trial + remaining)) :
    (relayLoop queue trials remaining trial address s).2 = true := by
  induction remaining generalizing trial address s with
  | zero => rfl
  | succ remaining ih =>
    rw [allRefused_cons (by omega : trial < trial + (remaining + 1))] at refused
    have fails : ¬ (trials trial).Answers := by
      rw [refused.1]
      exact nofun
    rcases relayLoop_failed queue remaining address s fails with ⟨address', next, isNext, _⟩
    rw [isNext]
    apply ih
    rw [show trial + 1 + remaining = trial + (remaining + 1) by omega]
    exact refused.2

lemma relayLoop_unanswered (address : Address) (s : RelayState)
    (before : ∀ attempt ∈ s.attempts, ¬ attempt.trial.Answers)
    (failed : (relayLoop queue trials remaining trial address s).2 = true) :
    (relayLoop queue trials remaining trial address s).1.attempts.length =
        s.attempts.length + remaining ∧
      ∀ attempt ∈ (relayLoop queue trials remaining trial address s).1.attempts,
        ¬ attempt.trial.Answers := by
  induction remaining generalizing trial address s with
  | zero => exact ⟨rfl, before⟩
  | succ remaining ih =>
    by_cases answers : (trials trial).Answers
    · rcases relayLoop_answered queue remaining address s answers with ⟨next, isNext, _⟩
      rw [isNext] at failed
      cases failed
    · rcases relayLoop_failed queue remaining address s answers with
        ⟨address', next, isNext, tried⟩
      rw [isNext] at failed ⊢
      have unanswered : ∀ attempt ∈ next.attempts, ¬ attempt.trial.Answers := by
        rw [tried.attempts, forall_mem_append, forall_mem_singleton]
        exact ⟨before, answers⟩
      have later := ih (trial + 1) address' next unanswered failed
      refine ⟨later.1.trans ?_, later.2⟩
      rw [tried.attempts, length_append, length_singleton]
      omega

lemma relayLoop_reply (address : Address) (s : RelayState) (empty : s.receive_buffer = [])
    (harmless : Harmless trials trial (trial + remaining))
    (answered : (relayLoop queue trials remaining trial address s).2 = false) :
    ∃ attempt, (relayLoop queue trials remaining trial address s).1.attempts.getLast? =
        some attempt ∧
      attempt.trial =
        .answered (relayLoop queue trials remaining trial address s).1.receive_buffer := by
  induction remaining generalizing trial address s with
  | zero => cases answered
  | succ remaining ih =>
    have last : trial + 1 + remaining = trial + (remaining + 1) := by omega
    by_cases answers : (trials trial).Answers
    · rcases relayLoop_answered queue remaining address s answers with ⟨next, isNext, tried⟩
      rw [isNext, tried.attempts, tried.receive_buffer, empty]
      rcases answers with ⟨output, isAnswer⟩
      exact ⟨_, getLast?_concat, by rw [isAnswer]; rfl⟩
    · rcases relayLoop_failed queue remaining address s answers with
        ⟨address', next, isNext, tried⟩
      rw [isNext] at answered ⊢
      by_cases sends : (trials trial).Sends
      · rw [harmless_of_sends answers sends, ← last] at harmless
        rw [relayLoop_refused remaining (trial + 1) address' next harmless] at answered
        cases answered
      · rw [harmless_of_keeps answers sends, ← last] at harmless
        have stillEmpty : next.receive_buffer = [] := by
          rw [tried.receive_buffer, empty, output_of_keeps sends]
          rfl
        exact ih (trial + 1) address' next stillEmpty harmless answered

end

/-- The workers get the whole job, and the client the output of the last one or an error. -/
structure RelayedWhole (job errorMessage : Data) (relayed : ClientReply × RelayState) : Prop where
  sent : Sent job relayed.2.attempts
  reply : (∃ attempt output, relayed.2.attempts.getLast? = some attempt ∧
      attempt.trial = .answered output ∧ relayed.1 = .message output) ∨
    (relayed.2.attempts.length = kMaxFailedWorkersTrials ∧
      (∀ attempt ∈ relayed.2.attempts, ¬ attempt.trial.Answers) ∧
      relayed.1 = .message errorMessage)

theorem relayed_whole_iff (queue : Top) (trials : Nat → Trial) (errorMessage body : Data)
    (workers : List Worker) (available : workers ≠ []) :
    RelayedWhole (body ++ kEop) errorMessage
        (handleUnicast queue trials errorMessage false (body ++ kEop) workers) ↔
      Harmless trials 0 kMaxFailedWorkersTrials := by
  rcases Option.isSome_iff_exists.mp (queue.picks workers available) with ⟨worker, isTop⟩
  have notEmpty : body ++ kEop ≠ [] := append_ne_nil_of_right_ne_nil body (by decide)
  generalize body ++ kEop = job at notEmpty ⊢
  have found : (getNextWorker queue workers).1 = some worker.address := by
    rw [getNextWorker, isTop]
  generalize start : (⟨(getNextWorker queue workers).2, job, [], []⟩ : RelayState) = s
  have whole : s.in_packet = job := by rw [← start]
  have empty : s.receive_buffer = [] := by rw [← start]
  have noneTried : s.attempts = [] := by rw [← start]
  generalize ended : relayLoop queue trials kMaxFailedWorkersTrials 0 worker.address s = r
  have isSent : Sent job r.1.attempts ↔ Harmless trials 0 kMaxFailedWorkersTrials := by
    rw [← ended, sent_of_whole notEmpty kMaxFailedWorkersTrials 0 worker.address s whole,
      noneTried, Nat.zero_add]
    exact and_iff_right (List.forall_mem_nil _)
  have relayed : handleUnicast queue trials errorMessage false job workers =
      (.message (if r.2 then errorMessage else r.1.receive_buffer), r.1) := by
    rw [handleUnicast, found, start]
    dsimp only
    rw [if_neg Bool.false_ne_true, ended]
    rcases r with ⟨next, _ | _⟩
    · rfl
    · rfl
  rw [relayed]
  constructor
  · intro both
    exact isSent.mp both.sent
  · intro harmless
    refine ⟨isSent.mpr harmless, ?_⟩
    cases failed : r.2 with
    | true =>
      right
      rw [← ended] at failed
      have unanswered := relayLoop_unanswered kMaxFailedWorkersTrials 0 worker.address s
        (by simp [noneTried]) failed
      rw [ended, noneTried, length_nil, Nat.zero_add] at unanswered
      exact ⟨unanswered.1, unanswered.2, rfl⟩
    | false =>
      left
      rw [← ended] at failed
      rcases relayLoop_reply kMaxFailedWorkersTrials 0 worker.address s empty
        (by simpa using harmless) failed with ⟨attempt, isLast, isAnswer⟩
      rw [ended] at isLast isAnswer
      exact ⟨attempt, _, isLast, isAnswer, rfl⟩

/-- Two workers, of which the first refuses the connection and the second answers. -/
theorem relayed_whole_iff_sample :
    RelayedWhole ("job".toList ++ kEop) []
        (handleUnicast leastFirst
          (fun trial => if trial = 0 then .refused else .answered "done".toList) [] false
          ("job".toList ++ kEop) [⟨⟨"127.0.0.1", 5556⟩, 0⟩, ⟨⟨"127.0.0.1", 5557⟩, 0⟩]) ↔
      Harmless (fun trial => if trial = 0 then .refused else .answered "done".toList) 0
        kMaxFailedWorkersTrials :=
  relayed_whole_iff leastFirst _ [] "job".toList _ (by decide)

def interrupted : ClientReply × RelayState :=
  handleUnicast leastFirst
    (fun trial => if trial = 0 then .cut "par".toList else .answered "done".toList) [] false
    ("job".toList ++ kEop) [⟨⟨"127.0.0.1", 5556⟩, 0⟩, ⟨⟨"127.0.0.1", 5557⟩, 0⟩]

/-- The second worker is sent nothing, and the client gets the part before the answer. -/
theorem buffers_reused_after_failure :
    interrupted.1 = .message "pardone".toList ∧
      interrupted.2.attempts.map Attempt.handed = [some ("job".toList ++ kEop), some []] ∧
      ¬ Sent ("job".toList ++ kEop) interrupted.2.attempts := by
  decide

end OpenRoad.Dst
