import Mathlib.Data.List.Nodup

/-! # Requests and their answers

Requests are numbered from one, as they are made. Closing the book makes every request made
so far due, so that none of them may go without an answer.
-/

namespace ConnectSDK

structure Answer (Reply : Type u) where
  request : Nat
  reply : Reply

/-- `closed` counts the requests made before the book was last closed. -/
structure RequestBook (Reply : Type u) where
  issued : Nat := 0
  answers : List (Answer Reply) := []
  closed : Nat := 0

namespace RequestBook

def answered (book : RequestBook Reply) : List Nat :=
  book.answers.map Answer.request

def Issued (book : RequestBook Reply) (request : Nat) : Prop :=
  0 < request ∧ request ≤ book.issued

def Waits (book : RequestBook Reply) (request : Nat) : Prop :=
  book.Issued request ∧ request ∉ book.answered

/-- The request waits, and no other. -/
def WaitsOnly (book : RequestBook Reply) (owner : Option Nat) : Prop :=
  ∀ request, book.Waits request ↔ owner = some request

/-- No request was answered twice, and the ones that are due were answered. -/
structure Settled (book : RequestBook Reply) : Prop where
  once : book.answered.Nodup
  due : ∀ request, 0 < request → request ≤ book.closed → request ∈ book.answered

/-- No request was answered twice, and something that may still answer it holds each that
waits. -/
structure Kept (book : RequestBook Reply) (held : Nat → Prop) : Prop where
  once : book.answered.Nodup
  held : ∀ request, book.Waits request → held request

/-- Only requests that were made were answered. -/
def Sound (book : RequestBook Reply) : Prop :=
  ∀ answer ∈ book.answers, book.Issued answer.request

def issue (book : RequestBook Reply) : RequestBook Reply :=
  { book with issued := book.issued + 1 }

def record (book : RequestBook Reply) (answer : Option (Answer Reply)) : RequestBook Reply :=
  { book with answers := book.answers ++ answer.toList }

/-- The book is closed as an answer is given, or without one. -/
def close (book : RequestBook Reply) (answer : Option (Answer Reply)) : RequestBook Reply :=
  { book.record answer with closed := book.issued }

variable {book : RequestBook Reply}

@[simp] theorem answered_record (book : RequestBook Reply) (answer : Option (Answer Reply)) :
    (book.record answer).answered = book.answered ++ answer.toList.map Answer.request :=
  List.map_append

@[simp] theorem answered_close (book : RequestBook Reply) (answer : Option (Answer Reply)) :
    (book.close answer).answered = book.answered ++ answer.toList.map Answer.request :=
  List.map_append

@[simp] theorem record_none (book : RequestBook Reply) : book.record none = book := by
  unfold record
  rw [Option.toList_none, List.append_nil]

/-- What is closed stays so. -/
theorem close_close (book : RequestBook Reply) (answer : Option (Answer Reply)) :
    (book.close answer).close none = book.close answer := by
  unfold close
  rw [record_none]
  rfl

theorem Sound.not_mem (sound : book.Sound) {request : Nat}
    (unissued : ¬book.Issued request) : request ∉ book.answered := by
  intro member
  rcases List.mem_map.mp member with ⟨answer, given, same⟩
  exact unissued (same ▸ sound answer given)

theorem Issued.issue {request : Nat} (issued : book.Issued request) :
    book.issue.Issued request :=
  ⟨issued.1, Nat.le_succ_of_le issued.2⟩

theorem issued_issue (book : RequestBook Reply) : book.issue.Issued (book.issued + 1) :=
  ⟨Nat.succ_pos _, Nat.le_refl _⟩

theorem Sound.issue (sound : book.Sound) : book.issue.Sound := fun answer given =>
  (sound answer given).issue

theorem Sound.record (sound : book.Sound) {answer : Option (Answer Reply)}
    (issued : ∀ given ∈ answer, book.Issued given.request) : (book.record answer).Sound := by
  intro given member
  rcases List.mem_append.mp member with before | new
  · exact sound given before
  · exact issued given (Option.mem_toList.mp new)

theorem Sound.close (sound : book.Sound) {answer : Option (Answer Reply)}
    (issued : ∀ given ∈ answer, book.Issued given.request) : (book.close answer).Sound :=
  sound.record issued

theorem nodup_record_iff (once : book.answered.Nodup) (answer : Option (Answer Reply)) :
    (book.record answer).answered.Nodup ↔ ∀ given ∈ answer, given.request ∉ book.answered := by
  cases answer with
  | none => simpa using once
  | some given =>
      rw [answered_record, List.nodup_append_comm, Option.toList_some, List.map_singleton,
        List.singleton_append, List.nodup_cons]
      simpa using fun _ => once

/-- An answer keeps the book settled exactly when its request waits. -/
theorem Settled.record_iff (settled : book.Settled) {answer : Option (Answer Reply)}
    (issued : ∀ given ∈ answer, book.Issued given.request) :
    (book.record answer).Settled ↔ ∀ given ∈ answer, book.Waits given.request := by
  constructor
  · intro good given member
    exact ⟨issued given member,
      (nodup_record_iff settled.once answer).mp good.once given member⟩
  · intro waits
    refine ⟨(nodup_record_iff settled.once answer).mpr fun given member =>
      (waits given member).2, ?_⟩
    intro request positive due
    rw [answered_record]
    exact List.mem_append_left _ (settled.due request positive due)

/-- The book closes settled exactly when no request waits but the one answered then. -/
theorem Settled.close_iff (settled : book.Settled) {answer : Option (Answer Reply)}
    (issued : ∀ given ∈ answer, book.Issued given.request) :
    (book.close answer).Settled ↔ book.WaitsOnly (answer.map Answer.request) := by
  have answers : ∀ request, request ∈ answer.toList.map Answer.request ↔
      answer.map Answer.request = some request := by
    intro request
    rw [← Option.toList_map, Option.mem_toList]
  constructor
  · intro good request
    constructor
    · rintro ⟨⟨positive, made⟩, unanswered⟩
      have answered := good.due request positive made
      rw [answered_close, List.mem_append] at answered
      exact (answers request).mp (answered.resolve_left unanswered)
    · intro owner
      rcases Option.map_eq_some_iff.mp owner with ⟨given, member, same⟩
      subst same
      exact ⟨issued given member,
        (nodup_record_iff settled.once answer).mp good.once given member⟩
  · intro only
    refine ⟨(nodup_record_iff settled.once answer).mpr ?_, ?_⟩
    · intro given member
      have owner : answer.map Answer.request = some given.request :=
        Option.map_eq_some_iff.mpr ⟨given, member, rfl⟩
      exact ((only given.request).mpr owner).2
    · intro request positive made
      rw [answered_close, List.mem_append]
      by_cases answered : request ∈ book.answered
      · exact .inl answered
      · exact .inr ((answers request).mpr ((only request).mp ⟨⟨positive, made⟩, answered⟩))

theorem Settled.issue (settled : book.Settled) : book.issue.Settled :=
  ⟨settled.once, settled.due⟩

/-- Before the first answer to a new request, that request waits. -/
theorem Sound.waits_issue (sound : book.Sound) : book.issue.Waits (book.issued + 1) :=
  ⟨book.issued_issue, sound.not_mem fun issued => Nat.not_succ_le_self _ issued.2⟩

/-- A new request waits alone exactly when none waited before. -/
theorem Sound.waitsOnly_issue (sound : book.Sound) :
    book.issue.WaitsOnly (some (book.issued + 1)) ↔ book.WaitsOnly none := by
  constructor
  · intro only request
    refine iff_of_false ?_ (Option.some_ne_none request).symm
    rintro ⟨issued, unanswered⟩
    have waits : book.issue.Waits request := ⟨issued.issue, unanswered⟩
    cases (only request).mp waits
    exact absurd issued.2 (Nat.not_succ_le_self _)
  · intro none request
    constructor
    · rintro ⟨⟨positive, made⟩, unanswered⟩
      rcases Nat.le_succ_iff.mp made with before | last
      · exact absurd ((none request).mp ⟨⟨positive, before⟩, unanswered⟩)
          (Option.some_ne_none request).symm
      · rw [last]
    · intro same
      cases same
      exact sound.waits_issue

/-! ## Held requests -/

theorem waits_record_iff (book : RequestBook Reply) (answer : Option (Answer Reply))
    (request : Nat) :
    (book.record answer).Waits request ↔
      book.Waits request ∧ answer.map Answer.request ≠ some request := by
  rw [Waits, answered_record, List.mem_append, not_or, ← and_assoc, ← Option.toList_map,
    Option.mem_toList]
  rfl

theorem waits_issue_iff (sound : book.Sound) (request : Nat) :
    book.issue.Waits request ↔ book.Waits request ∨ request = book.issued + 1 := by
  constructor
  · rintro ⟨⟨positive, made⟩, unanswered⟩
    rcases Nat.le_succ_iff.mp made with before | last
    · exact .inl ⟨⟨positive, before⟩, unanswered⟩
    · exact .inr last
  · intro either
    rcases either with waits | new
    · exact ⟨waits.1.issue, waits.2⟩
    · rw [new]
      exact sound.waits_issue

variable {held after : Nat → Prop}

theorem Kept.mono (kept : book.Kept held) (implies : ∀ request, held request → after request) :
    book.Kept after :=
  ⟨kept.once, fun request waits => implies request (kept.held request waits)⟩

/-- A new request is kept by whatever holds it. -/
theorem Kept.issue (sound : book.Sound) (kept : book.Kept held) :
    book.issue.Kept fun request => held request ∨ request = book.issued + 1 := by
  refine ⟨kept.once, ?_⟩
  intro request waits
  exact ((waits_issue_iff sound request).mp waits).imp_left (kept.held request)

/-- An answer keeps the requests exactly if its own waits and the others stay held. -/
theorem Kept.record_iff (kept : book.Kept held) {answer : Option (Answer Reply)}
    (issued : ∀ given ∈ answer, book.Issued given.request) :
    (book.record answer).Kept after ↔
      (∀ given ∈ answer, book.Waits given.request) ∧
        ∀ request, book.Waits request →
          answer.map Answer.request = some request ∨ after request := by
  constructor
  · intro good
    refine ⟨fun given member => ⟨issued given member,
      (nodup_record_iff kept.once answer).mp good.once given member⟩, ?_⟩
    intro request waits
    by_cases answered : answer.map Answer.request = some request
    · exact .inl answered
    · exact .inr (good.held request ((waits_record_iff book answer request).mpr
        ⟨waits, answered⟩))
  · rintro ⟨waits, others⟩
    refine ⟨(nodup_record_iff kept.once answer).mpr fun given member =>
      (waits given member).2, ?_⟩
    intro request waitsAfter
    have before := (waits_record_iff book answer request).mp waitsAfter
    exact (others request before.1).resolve_left before.2

/-- Without an answer the requests are kept exactly if they stay held. -/
theorem Kept.held_iff (kept : book.Kept held) :
    book.Kept after ↔ ∀ request, book.Waits request → after request :=
  ⟨fun good => good.held, fun holds => ⟨kept.once, holds⟩⟩

end RequestBook

end ConnectSDK
