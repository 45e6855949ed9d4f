/-
Module: Dmon.Proofs.Ledger
Layer: Proofs
Purpose: The library's ledger, one lemma for each thing that can happen to the outstanding requests of a
  kind and to the log: a request is handed over, a handler of the kind or of another kind runs, a topic
  arrives. Also the last finished fetch, and how the last request of a kind ended, as the log has them.
Imports: Mathlib.Data.List.Nodup, Dmon.Proofs.Transitions
Trusted boundary: none
Main exports: Library.outstandingOf_handOver_self, Library.outstandingOf_record_of_ending,
  Library.outstandingOf_record_of_kind_ne, Library.answering_eq_of_expects, Library.Numbered,
  Library.lastFetch?, Library.record_ends_fetch, Library.lastEnding?,
  Library.lastEnding?_record_of_expects
-/
import Mathlib.Data.List.Nodup
import Dmon.Proofs.Transitions

namespace Dmon

theorem Conversation.answers_iff {c : Conversation} {h : Handler} {id : Nat} :
    c.answers h id = true ↔ c.id = id ∧ h.kind? = some c.kind := by
  simp [Conversation.answers]

namespace Library

variable {lib : Library} {h : Handler} {id : Nat} {kind : RequestKind} {ending : Ending}
  {c : Conversation}

/-! ### Outstanding requests -/

theorem outstandingOf_handOver_self (lib : Library) (kind : RequestKind) (selector : String) :
    (lib.handOver kind selector).outstandingOf kind =
      lib.outstandingOf kind ++ [{ id := lib.nextId, kind := kind, selector := selector }] := by
  simp [outstandingOf, handOver]

theorem outstandingOf_handOver_of_ne {other : RequestKind} (ne : kind ≠ other)
    (lib : Library) (selector : String) :
    (lib.handOver kind selector).outstandingOf other = lib.outstandingOf other := by
  simp [outstandingOf, handOver, ne]

/-- A terminal handler removes the conversations that answer to it. -/
theorem outstandingOf_record_of_ending (terminal : h.ending? = some ending) :
    (lib.record h id).outstandingOf kind =
      (lib.outstandingOf kind).filter fun c => !c.answers h id := by
  simp only [outstandingOf, record, terminal, List.filter_filter]
  exact List.filter_congr fun c _ => Bool.and_comm _ _

/-- A terminal handler of the kind leaves the requests with other numbers. -/
theorem outstandingOf_record_own (own : h.kind? = some kind) (terminal : h.ending? = some ending) :
    (lib.record h id).outstandingOf kind = (lib.outstandingOf kind).filter (·.id ≠ id) := by
  rw [outstandingOf_record_of_ending terminal]
  apply List.filter_congr
  intro c member
  have same : c.kind = kind := by simpa using (List.mem_filter.1 member).2
  simp [Conversation.answers, own, same, Bool.beq_eq_decide_eq]

/-- A handler from the handler set of another kind of request changes nothing. -/
theorem outstandingOf_record_of_kind_ne (ne : h.kind? ≠ some kind) :
    (lib.record h id).outstandingOf kind = lib.outstandingOf kind := by
  have foreign : ∀ c ∈ lib.outstandingOf kind, c.answers h id = false := by
    intro c member
    have same : c.kind = kind := by simpa [outstandingOf] using (List.mem_filter.1 member).2
    simp [Conversation.answers, same, ne]
  cases terminal : h.ending? with
  | some ending =>
      rw [outstandingOf_record_of_ending terminal]
      exact List.filter_eq_self.2 fun c member => by simp [foreign c member]
  | none =>
      cases h with
      | onTopic message =>
          cases message with
          | none => rfl
          | some message =>
              have other : kind ≠ .fetch := fun same => ne (by simp [Handler.kind?, same])
              have fetchOnly : ∀ c : Conversation,
                  ((if c.answers (.onTopic (some message)) id then
                    { c with topics := c.topics ++ [message.delivered] } else c).kind == kind) =
                  (c.kind == kind) := by
                intro c
                split <;> rfl
              simp only [outstandingOf, record, terminal, List.filter_map, Function.comp_def,
                fetchOnly]
              refine (List.map_congr_left ?_).trans (List.map_id _)
              intro c member
              simp [foreign c member]
      | _ => first | rfl | simp [Handler.ending?] at terminal

/-- A topic message is added to the topics of the fetch it is delivered for. -/
theorem outstandingOf_record_topic (message : TopicMessage) :
    (lib.record (.onTopic (some message)) id).outstandingOf .fetch =
      (lib.outstandingOf .fetch).map fun c =>
        if c.id = id then { c with topics := c.topics ++ [message.delivered] } else c := by
  have sameKind : ∀ c : Conversation,
      ((if c.answers (.onTopic (some message)) id then
        { c with topics := c.topics ++ [message.delivered] } else c).kind == .fetch) =
      (c.kind == .fetch) := by
    intro c
    split <;> rfl
  simp only [outstandingOf, record, Handler.ending?, List.filter_map, Function.comp_def, sameKind]
  apply List.map_congr_left
  intro c member
  have fetch : c.kind = .fetch := by simpa using (List.mem_filter.1 member).2
  simp [Conversation.answers, Handler.kind?, fetch]

/-- A handler that ends nothing and delivers no topic leaves the ledger as it is. -/
theorem record_eq_self (silent : h.ending? = none)
    (noTopic : ∀ message, h ≠ .onTopic (some message)) : lib.record h id = lib := by
  cases h with
  | onTopic message =>
      cases message with
      | none => rfl
      | some message => exact absurd rfl (noTopic message)
  | _ => first | rfl | simp [Handler.ending?] at silent

/-- A fetch handler that only logs leaves the ledger as it is, unless it is the error handler without an
    error. -/
theorem record_of_isQuiet (silent : h.isQuiet = true) (own : h.kind? = some .fetch)
    (given : h ≠ .onFetchError none) : lib.record h id = lib := by
  apply record_eq_self
  · cases h with
    | onFetchError error =>
        cases error with
        | none => exact absurd rfl given
        | some error => cases silent
    | onFetch | onFetchDiscard => cases silent
    | onTopic | onFetchStatusMessage => rfl
    | _ => cases own
  · intro message same
    subst same
    cases silent

/-- A kind without outstanding requests stays so at every handler call. -/
theorem outstandingOf_record_eq_nil (none : lib.outstandingOf kind = []) :
    (lib.record h id).outstandingOf kind = [] := by
  by_cases own : h.kind? = some kind
  · cases terminal : h.ending? with
    | some ending => simp [outstandingOf_record_of_ending terminal, none]
    | none =>
        by_cases topic : ∃ message, h = .onTopic (some message)
        · rcases topic with ⟨message, rfl⟩
          obtain rfl : RequestKind.fetch = kind := Option.some.inj own
          simp [outstandingOf_record_topic, none]
        · rw [record_eq_self terminal fun message same => topic ⟨message, same⟩]
          exact none
  · rw [outstandingOf_record_of_kind_ne own]
    exact none

/-- The conversations that answer to a handler are outstanding requests of its kind. -/
theorem answering_eq (own : h.kind? = some kind) :
    lib.outstanding.filter (·.answers h id) = (lib.outstandingOf kind).filter (·.id == id) := by
  simp only [outstandingOf, List.filter_filter]
  apply List.filter_congr
  intro c _
  have swap : (kind == c.kind) = (c.kind == kind) := BEq.comm
  simp [Conversation.answers, own, swap]

/-- With a single outstanding request of its kind, an expected handler is for that request. -/
theorem answering_eq_of_expects (own : h.kind? = some kind) (single : lib.outstandingOf kind = [c])
    (expected : lib.expects h id) : c.id = id ∧ lib.outstanding.filter (·.answers h id) = [c] := by
  rcases List.any_eq_true.1 expected with ⟨found, member, answers⟩
  have listed : found ∈ lib.outstanding.filter (·.answers h id) :=
    List.mem_filter.2 ⟨member, answers⟩
  rw [answering_eq own, single] at listed
  rcases List.mem_filter.1 listed with ⟨isOnly, number⟩
  obtain rfl : found = c := by simpa using isOnly
  have number : found.id = id := by simpa using number
  refine ⟨number, ?_⟩
  rw [answering_eq own, single]
  simp [number]

/-- An expected handler has an outstanding request of its kind. -/
theorem exists_of_expects (own : h.kind? = some kind) (expected : lib.expects h id) :
    ∃ c ∈ lib.outstandingOf kind, c.id = id := by
  rcases List.any_eq_true.1 expected with ⟨c, member, answers⟩
  have listed : c ∈ lib.outstanding.filter (·.answers h id) := List.mem_filter.2 ⟨member, answers⟩
  rw [answering_eq own] at listed
  rcases List.mem_filter.1 listed with ⟨outstanding, number⟩
  exact ⟨c, outstanding, by simpa using number⟩

/-! ### Numbers -/

/-- The outstanding requests have different numbers, all of them handed out already. -/
structure Numbered (lib : Library) : Prop where
  nodup : (lib.outstanding.map (·.id)).Nodup
  below : ∀ c ∈ lib.outstanding, c.id < lib.nextId

/-- A handler call leaves some of the outstanding requests, with what is not their topics unchanged. -/
theorem map_record_sublist {α : Type*} {f : Conversation → α}
    (keeps : ∀ c topics, f { c with topics := topics } = f c) :
    ((lib.record h id).outstanding.map f).Sublist (lib.outstanding.map f) := by
  cases terminal : h.ending? with
  | some ending =>
      simp only [record, terminal]
      exact List.filter_sublist.map f
  | none =>
      by_cases topic : ∃ message, h = .onTopic (some message)
      · rcases topic with ⟨message, rfl⟩
        have same : ((lib.record (.onTopic (some message)) id).outstanding.map f) =
            lib.outstanding.map f := by
          simp only [record, Handler.ending?, List.map_map]
          apply List.map_congr_left
          intro c _
          simp only [Function.comp_apply]
          split
          · exact keeps c _
          · rfl
        rw [same]
      · rw [record_eq_self terminal fun message same => topic ⟨message, same⟩]

/-- An outstanding request was outstanding before a handler call. -/
theorem exists_of_mem_record (member : c ∈ (lib.record h id).outstanding) :
    ∃ d ∈ lib.outstanding, d.id = c.id ∧ d.kind = c.kind ∧ d.selector = c.selector := by
  have sub : ((lib.record h id).outstanding.map fun c => (c.id, c.kind, c.selector)).Sublist
      (lib.outstanding.map fun c => (c.id, c.kind, c.selector)) :=
    map_record_sublist fun _ _ => rfl
  rcases List.mem_map.1 (sub.subset (List.mem_map_of_mem member)) with ⟨d, before, same⟩
  simp only [Prod.mk.injEq] at same
  exact ⟨d, before, same⟩

namespace Numbered

theorem handOver (numbered : lib.Numbered) (kind : RequestKind) (selector : String) :
    (lib.handOver kind selector).Numbered where
  nodup := by
    have fresh : lib.nextId ∉ lib.outstanding.map (·.id) := by
      intro taken
      rcases List.mem_map.1 taken with ⟨c, member, number⟩
      exact absurd number (numbered.below c member).ne
    simpa [Library.handOver, List.nodup_append, numbered.nodup] using fresh
  below := by
    intro c member
    simp only [Library.handOver, List.mem_append, List.mem_singleton] at member ⊢
    rcases member with old | rfl
    · exact (numbered.below c old).trans (Nat.lt_succ_self _)
    · exact Nat.lt_succ_self _

theorem record (numbered : lib.Numbered) (h : Handler) (id : Nat) :
    (lib.record h id).Numbered where
  nodup := (map_record_sublist fun _ _ => rfl).nodup numbered.nodup
  below := by
    intro c member
    obtain ⟨d, before, number, _⟩ := exists_of_mem_record member
    have counter : (lib.record h id).nextId = lib.nextId := by
      unfold Library.record
      split
      · rfl
      · split <;> rfl
    rw [counter, ← number]
    exact numbered.below d before

/-- A handler answers at most one request. -/
theorem answering_eq (numbered : lib.Numbered) (member : c ∈ lib.outstanding)
    (answers : c.answers h id) : lib.outstanding.filter (·.answers h id) = [c] := by
  have only : ∀ d ∈ lib.outstanding, d.answers h id = (d == c) := by
    intro d other
    rw [Bool.eq_iff_iff, beq_iff_eq]
    constructor
    · intro also
      have same : d.id = c.id :=
        (Conversation.answers_iff.1 also).1.trans (Conversation.answers_iff.1 answers).1.symm
      exact List.inj_on_of_nodup_map numbered.nodup other member same
    · intro same
      subst same
      exact answers
  rw [List.filter_congr only, List.filter_beq,
    List.count_eq_one_of_mem (List.Nodup.of_map _ numbered.nodup) member]
  rfl

/-- A terminal handler is logged as the ending of the one request it answers. -/
theorem log_record (numbered : lib.Numbered) (member : c ∈ lib.outstanding)
    (answers : c.answers h id) (terminal : h.ending? = some ending) :
    (lib.record h id).log = lib.log ++ [.ended c ending] := by
  simp [Library.record, terminal, numbered.answering_eq member answers]

end Numbered

/-! ### The log -/

theorem log_record_of_ending (terminal : h.ending? = some ending) :
    (lib.record h id).log =
      lib.log ++ (lib.outstanding.filter (·.answers h id)).map (.ended · ending) := by
  simp [record, terminal]

theorem log_record_of_none (silent : h.ending? = none) : (lib.record h id).log = lib.log := by
  cases h with
  | onTopic message => cases message <;> rfl
  | _ => first | rfl | simp [Handler.ending?] at silent

/-- What the log says about one kind of request stays as it is when a handler ends none of that kind. -/
theorem filterMap_log_record_of_ne {α : Type*} {f : LogEntry → Option α}
    (only : ∀ c ending, c.kind ≠ kind → f (.ended c ending) = none)
    (ne : h.ending? = none ∨ h.kind? ≠ some kind) :
    (lib.record h id).log.filterMap f = lib.log.filterMap f := by
  cases terminal : h.ending? with
  | none => rw [log_record_of_none terminal]
  | some ending =>
      have foreign : h.kind? ≠ some kind := by simpa [terminal] using ne
      have nothing : (lib.outstanding.filter (·.answers h id)).filterMap
          (fun c => f (.ended c ending)) = [] := by
        rw [List.filterMap_eq_nil_iff]
        intro c member
        have answers := (List.mem_filter.1 member).2
        apply only
        intro same
        simp [Conversation.answers, same, foreign] at answers
      rw [log_record_of_ending terminal, List.filterMap_append, List.filterMap_map, Function.comp_def,
        nothing, List.append_nil]

end Library

/-- The finished fetch that a log entry is about. -/
def LogEntry.fetchEnded? : LogEntry → Option (Conversation × Ending)
  | .ended c ending => if c.kind = .fetch then some (c, ending) else none
  | .opened _ => none

/-- The most recently finished fetch and how it ended. -/
def Library.lastFetch? (lib : Library) : Option (Conversation × Ending) :=
  (lib.log.filterMap LogEntry.fetchEnded?).getLast?

namespace Library

variable {lib : Library} {h : Handler} {id : Nat} {c : Conversation} {ending : Ending}

theorem lastFetch?_handOver (lib : Library) (kind : RequestKind) (selector : String) :
    (lib.handOver kind selector).lastFetch? = lib.lastFetch? := by
  simp [lastFetch?, handOver, LogEntry.fetchEnded?]

/-- A handler of another kind of request finishes no fetch. -/
theorem lastFetch?_record_of_kind_ne (ne : h.kind? ≠ some .fetch) :
    (lib.record h id).lastFetch? = lib.lastFetch? := by
  rw [lastFetch?, filterMap_log_record_of_ne _ (.inr ne), lastFetch?]
  intro c ending other
  simp [LogEntry.fetchEnded?, other]

/-- The terminal handler of the only outstanding fetch makes it the most recently finished one and
    leaves none. -/
theorem record_ends_fetch (own : h.kind? = some .fetch) (terminal : h.ending? = some ending)
    (single : lib.outstandingOf .fetch = [c]) (expected : lib.expects h id) :
    (lib.record h id).outstandingOf .fetch = [] ∧
      (lib.record h id).lastFetch? = some (c, ending) := by
  obtain ⟨number, answering⟩ := answering_eq_of_expects own single expected
  have fetch : c.kind = .fetch := by
    have member : c ∈ lib.outstandingOf .fetch := by simp [single]
    simpa using (List.mem_filter.1 member).2
  constructor
  · rw [outstandingOf_record_of_ending terminal, single]
    simp [Conversation.answers, own, number, fetch]
  · simp [lastFetch?, log_record_of_ending terminal, answering, LogEntry.fetchEnded?, fetch]

end Library

/-- How a request of the kind ended, if a log entry is about that. -/
def LogEntry.endingOf? (kind : RequestKind) : LogEntry → Option Ending
  | .ended c ending => if c.kind = kind then some ending else none
  | .opened _ => none

/-- How the most recently ended request of a kind ended. -/
def Library.lastEnding? (lib : Library) (kind : RequestKind) : Option Ending :=
  (lib.log.filterMap (LogEntry.endingOf? kind)).getLast?

namespace Library

variable {lib : Library} {h : Handler} {id : Nat} {kind : RequestKind} {ending : Ending}

@[simp] theorem lastEnding?_handOver (lib : Library) (opened kind : RequestKind) (selector : String) :
    (lib.handOver opened selector).lastEnding? kind = lib.lastEnding? kind := by
  simp [lastEnding?, handOver, LogEntry.endingOf?]

/-- A handler that is not terminal, or of another kind of request, ends no request of the kind. -/
theorem lastEnding?_record_of_ne (ne : h.ending? = none ∨ h.kind? ≠ some kind) :
    (lib.record h id).lastEnding? kind = lib.lastEnding? kind := by
  rw [lastEnding?, filterMap_log_record_of_ne _ ne, lastEnding?]
  intro c ending other
  simp [LogEntry.endingOf?, other]

/-- An expected terminal handler is how the last request of its kind ended. -/
theorem lastEnding?_record_of_expects (own : h.kind? = some kind) (terminal : h.ending? = some ending)
    (expected : lib.expects h id) : (lib.record h id).lastEnding? kind = some ending := by
  have every : (lib.outstanding.filter (·.answers h id)).filterMap
      (fun c => LogEntry.endingOf? kind (.ended c ending)) =
        List.replicate (lib.outstanding.filter (·.answers h id)).length ending := by
    rw [answering_eq own, ← List.map_const', ← List.filterMap_eq_map]
    apply List.filterMap_congr
    intro c member
    have same : c.kind = kind := by
      simpa [outstandingOf] using (List.mem_filter.1 (List.mem_filter.1 member).1).2
    simp [LogEntry.endingOf?, same]
  have some_answer : (lib.outstanding.filter (·.answers h id)).length ≠ 0 := by
    obtain ⟨c, member, answers⟩ := List.any_eq_true.1 expected
    exact (List.length_pos_of_mem (List.mem_filter.2 ⟨member, answers⟩)).ne'
  rw [lastEnding?, log_record_of_ending terminal, List.filterMap_append, List.filterMap_map,
    Function.comp_def, every]
  simp [List.getLast?_append, List.getLast?_replicate, some_answer]

end Library

end Dmon
