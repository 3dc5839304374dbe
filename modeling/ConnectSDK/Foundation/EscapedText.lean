import Mathlib.Data.List.Basic

/-! # Escaped texts

A writer puts a mark and a body in the place of every symbol that it escapes. The mark
itself is not escaped, so that a text may have, as it is, what reads as an escape.
-/

namespace ConnectSDK

structure Escaping (Symbol : Type u) where
  mark : Symbol
  escapes : Symbol → Bool
  body : Symbol → List Symbol
  escapes_mark : escapes mark = false

namespace Escaping

variable {Symbol : Type u} (escaping : Escaping Symbol)

/-- A symbol that stays as it is and is not the mark. -/
def Plain (symbol : Symbol) : Prop :=
  escaping.escapes symbol = false ∧ symbol ≠ escaping.mark

def escapedSymbol (symbol : Symbol) : List Symbol :=
  if escaping.escapes symbol then escaping.mark :: escaping.body symbol else [symbol]

def escaped (text : List Symbol) : List Symbol :=
  text.flatMap escaping.escapedSymbol

/-! ## Writing -/

theorem escaped_cons_of_escapes {symbol : Symbol} (escapes : escaping.escapes symbol = true)
    (text : List Symbol) :
    escaping.escaped (symbol :: text) =
      escaping.mark :: (escaping.body symbol ++ escaping.escaped text) := by
  rw [escaped, List.flatMap_cons, escapedSymbol, if_pos escapes]
  rfl

theorem escaped_cons_of_kept {symbol : Symbol} (kept : escaping.escapes symbol = false)
    (text : List Symbol) :
    escaping.escaped (symbol :: text) = symbol :: escaping.escaped text := by
  rw [escaped, List.flatMap_cons, escapedSymbol, kept, if_neg Bool.false_ne_true]
  rfl

theorem escaped_append_of_plain {plain : List Symbol}
    (all : ∀ symbol ∈ plain, escaping.Plain symbol) (text : List Symbol) :
    escaping.escaped (plain ++ text) = plain ++ escaping.escaped text := by
  induction plain with
  | nil => rfl
  | cons symbol plain induction =>
      rw [List.cons_append, escaping.escaped_cons_of_kept (all symbol List.mem_cons_self).1,
        induction fun other member => all other (List.mem_cons_of_mem symbol member),
        List.cons_append]

/-- Plain symbols that come first were written as they are: whatever is escaped starts with
the mark. -/
theorem plain_prefix_of_escaped {plain rest : List Symbol}
    (all : ∀ symbol ∈ plain, escaping.Plain symbol) {text : List Symbol}
    (written : escaping.escaped text = plain ++ rest) : ∃ more, text = plain ++ more := by
  induction plain generalizing text with
  | nil => exact ⟨text, rfl⟩
  | cons symbol plain induction =>
      have first : escaping.Plain symbol := all symbol List.mem_cons_self
      cases text with
      | nil => exact absurd written (List.cons_ne_nil symbol _).symm
      | cons head text =>
          cases kept : escaping.escapes head with
          | true =>
              rw [escaping.escaped_cons_of_escapes kept] at written
              exact absurd (List.cons.inj written).1.symm first.2
          | false =>
              rw [escaping.escaped_cons_of_kept kept] at written
              rcases List.cons.inj written with ⟨same, later⟩
              rcases induction (fun other member => all other
                (List.mem_cons_of_mem symbol member)) later with ⟨more, split⟩
              exact ⟨more, by rw [same, split, List.cons_append]⟩

end Escaping

/-- How a text is read after a mark: a sequence of plain symbols stands for a symbol,
whatever comes after it. The bodies of the writer are among these sequences. -/
structure EscapeReader {Symbol : Type u} (escaping : Escaping Symbol) where
  read? : List Symbol → Option (Symbol × List Symbol)
  read_body : ∀ symbol rest, escaping.escapes symbol = true →
    read? (escaping.body symbol ++ rest) = some (symbol, rest)
  read_sequence : ∀ text symbol rest, read? text = some (symbol, rest) →
    ∃ sequence, sequence ≠ [] ∧ text = sequence ++ rest ∧
      (∀ plain ∈ sequence, escaping.Plain plain) ∧
      ∀ other, read? (sequence ++ other) = some (symbol, other)

namespace EscapeReader

variable {Symbol : Type u} [DecidableEq Symbol] {escaping : Escaping Symbol}
  (reader : EscapeReader escaping)

/-- Nothing is read but what the writer writes. -/
def Exact {Symbol : Type u} {escaping : Escaping Symbol} (reader : EscapeReader escaping) :
    Prop :=
  ∀ text symbol rest, reader.read? text = some (symbol, rest) →
    escaping.escapes symbol = true ∧ text = escaping.body symbol ++ rest

/-- The reader of what the writer writes and of nothing else. -/
def restricted : EscapeReader escaping where
  read? text :=
    (reader.read? text).filter fun found =>
      escaping.escapes found.1 && decide (text = escaping.body found.1 ++ found.2)
  read_body symbol rest escapes := by
    rw [reader.read_body symbol rest escapes, Option.filter_some, escapes, decide_eq_true rfl]
    rfl
  read_sequence text symbol rest found := by
    rw [Option.filter_eq_some_iff, Bool.and_eq_true, decide_eq_true_eq] at found
    rcases found with ⟨taken, escapes, written⟩
    rcases reader.read_sequence text symbol rest taken with
      ⟨sequence, filled, split, plain, anywhere⟩
    have same : sequence = escaping.body symbol :=
      List.append_cancel_right (split.symm.trans written)
    refine ⟨sequence, filled, split, plain, fun other => ?_⟩
    rw [anywhere other, Option.filter_some, escapes, same, decide_eq_true rfl]
    rfl

theorem exact_restricted : reader.restricted.Exact := by
  intro text symbol rest found
  have accepted := (Option.filter_eq_some_iff.mp found).2
  rw [Bool.and_eq_true, decide_eq_true_eq] at accepted
  exact accepted

/-- What begins with this symbol, if that is the mark of a sequence. -/
def readAt? (symbol : Symbol) (text : List Symbol) : Option (Symbol × List Symbol) :=
  if symbol = escaping.mark then reader.read? text else none

theorem readAt?_eq_some_iff {symbol read : Symbol} {text rest : List Symbol} :
    reader.readAt? symbol text = some (read, rest) ↔
      symbol = escaping.mark ∧ reader.read? text = some (read, rest) := by
  unfold readAt?
  split
  · rename_i mark
    exact (and_iff_right mark).symm
  · rename_i other
    exact ⟨nofun, fun marked => absurd marked.1 other⟩

theorem length_lt_of_readAt? {symbol read : Symbol} {text rest : List Symbol}
    (found : reader.readAt? symbol text = some (read, rest)) : rest.length < text.length := by
  rcases reader.read_sequence text read rest (reader.readAt?_eq_some_iff.mp found).2 with
    ⟨sequence, filled, rfl, -, -⟩
  rw [List.length_append]
  have positive := List.length_pos_iff.mpr filled
  omega

/-- Sequences are replaced from left to right by the symbols they stand for. -/
def unescaped : List Symbol → List Symbol
  | [] => []
  | symbol :: text =>
      match found : reader.readAt? symbol text with
      | some (read, rest) =>
          have := reader.length_lt_of_readAt? found
          read :: unescaped rest
      | none => symbol :: unescaped text
termination_by text => text.length
decreasing_by all_goals simp only [List.length_cons]; omega

/-- A sequence begins somewhere in the text. -/
def HasSequence (text : List Symbol) : Prop :=
  ∃ before after, text = before ++ escaping.mark :: after ∧ (reader.read? after).isSome = true

/-! ## Reading -/

theorem unescaped_nil : reader.unescaped [] = [] := by
  rw [unescaped]

theorem unescaped_of_some {symbol read : Symbol} {text rest : List Symbol}
    (found : reader.readAt? symbol text = some (read, rest)) :
    reader.unescaped (symbol :: text) = read :: reader.unescaped rest := by
  rw [unescaped]
  split
  · rename_i same
    cases found.symm.trans same
    rfl
  · rename_i absent
    cases found.symm.trans absent

theorem unescaped_of_none {symbol : Symbol} {text : List Symbol}
    (absent : reader.readAt? symbol text = none) :
    reader.unescaped (symbol :: text) = symbol :: reader.unescaped text := by
  rw [unescaped]
  split
  · rename_i found
    cases absent.symm.trans found
  · rfl

theorem hasSequence_cons_iff {symbol : Symbol} {text : List Symbol} :
    reader.HasSequence (symbol :: text) ↔
      (reader.readAt? symbol text).isSome = true ∨ reader.HasSequence text := by
  constructor
  · rintro ⟨before, after, split, begins⟩
    cases before with
    | nil =>
        cases split
        left
        rw [readAt?, if_pos rfl]
        exact begins
    | cons head before =>
        cases split
        exact .inr ⟨before, after, rfl, begins⟩
  · rintro (begins | ⟨before, after, split, begins⟩)
    · rcases Option.isSome_iff_exists.mp begins with ⟨⟨read, rest⟩, found⟩
      rcases reader.readAt?_eq_some_iff.mp found with ⟨mark, taken⟩
      exact ⟨[], text, by rw [mark, List.nil_append], by rw [taken, Option.isSome_some]⟩
    · exact ⟨symbol :: before, after, by rw [split, List.cons_append], begins⟩

omit [DecidableEq Symbol] in
theorem not_hasSequence_nil : ¬ reader.HasSequence [] := by
  rintro ⟨before, after, split, -⟩
  exact List.append_ne_nil_of_right_ne_nil before (List.cons_ne_nil _ after) split.symm

instance decidableHasSequence : DecidablePred reader.HasSequence
  | [] => isFalse reader.not_hasSequence_nil
  | _ :: text =>
      have := decidableHasSequence text
      decidable_of_iff _ reader.hasSequence_cons_iff.symm

theorem length_unescaped_le (text : List Symbol) :
    (reader.unescaped text).length ≤ text.length := by
  fun_induction reader.unescaped text with
  | case1 => exact Nat.le_refl 0
  | case2 symbol text read rest found shorter induction =>
      rw [List.length_cons, List.length_cons]
      omega
  | case3 symbol text absent induction =>
      rw [List.length_cons, List.length_cons]
      omega

/-- A text is read as itself unless there is something to read in it. -/
theorem unescaped_eq_self_iff (text : List Symbol) :
    reader.unescaped text = text ↔ ¬ reader.HasSequence text := by
  fun_induction reader.unescaped text with
  | case1 => exact iff_of_true rfl reader.not_hasSequence_nil
  | case2 symbol text read rest found shorter induction =>
      refine iff_of_false ?_ (not_not_intro ?_)
      · intro same
        have lengths := congrArg List.length same
        have shrunk := reader.length_unescaped_le rest
        rw [List.length_cons, List.length_cons] at lengths
        omega
      · rw [hasSequence_cons_iff, found]
        exact .inl rfl
  | case3 symbol text absent induction =>
      rw [List.cons.injEq, and_iff_right rfl, induction, hasSequence_cons_iff, absent,
        Option.isSome_none, or_iff_right Bool.false_ne_true]

/-! ## Reading what was written -/

theorem readAt?_escapedSymbol {symbol : Symbol} (escapes : escaping.escapes symbol = true)
    (rest : List Symbol) :
    reader.readAt? escaping.mark (escaping.body symbol ++ rest) = some (symbol, rest) :=
  reader.readAt?_eq_some_iff.mpr ⟨rfl, reader.read_body symbol rest escapes⟩

/-- No sequence arises where the text had none. -/
theorem readAt?_escaped_of_none {symbol : Symbol} {text : List Symbol}
    (absent : reader.readAt? symbol text = none) :
    reader.readAt? symbol (escaping.escaped text) = none := by
  rw [Option.eq_none_iff_forall_ne_some]
  rintro ⟨read, rest⟩ found
  rcases reader.readAt?_eq_some_iff.mp found with ⟨mark, taken⟩
  rcases reader.read_sequence _ _ _ taken with ⟨sequence, -, written, plain, anywhere⟩
  rcases escaping.plain_prefix_of_escaped plain written with ⟨more, rfl⟩
  have already := reader.readAt?_eq_some_iff.mpr ⟨mark, anywhere more⟩
  cases absent.symm.trans already

/-- Escaping makes no difference to what a text is read as. -/
theorem unescaped_escaped (text : List Symbol) :
    reader.unescaped (escaping.escaped text) = reader.unescaped text := by
  fun_induction reader.unescaped text with
  | case1 => exact reader.unescaped_nil
  | case2 symbol text read rest found shorter induction =>
      rcases reader.readAt?_eq_some_iff.mp found with ⟨rfl, taken⟩
      rcases reader.read_sequence _ _ _ taken with ⟨sequence, -, rfl, plain, anywhere⟩
      rw [escaping.escaped_cons_of_kept escaping.escapes_mark,
        escaping.escaped_append_of_plain plain, reader.unescaped_of_some
          (reader.readAt?_eq_some_iff.mpr ⟨rfl, anywhere (escaping.escaped rest)⟩), induction]
  | case3 symbol text absent induction =>
      cases kept : escaping.escapes symbol with
      | true =>
          rw [escaping.escaped_cons_of_escapes kept,
            reader.unescaped_of_some (reader.readAt?_escapedSymbol kept _), induction]
      | false =>
          rw [escaping.escaped_cons_of_kept kept,
            reader.unescaped_of_none (reader.readAt?_escaped_of_none absent), induction]

variable {reader}

/-- A sequence and the symbol it stands for are written alike. -/
theorem Exact.escaped_unescaped (exact : reader.Exact) (text : List Symbol) :
    escaping.escaped (reader.unescaped text) = escaping.escaped text := by
  fun_induction reader.unescaped text with
  | case1 => rfl
  | case2 symbol text read rest found shorter induction =>
      rcases reader.readAt?_eq_some_iff.mp found with ⟨rfl, taken⟩
      rcases exact _ _ _ taken with ⟨escapes, body⟩
      rcases reader.read_sequence _ _ _ taken with ⟨sequence, -, split, plain, -⟩
      have same : sequence = escaping.body read :=
        List.append_cancel_right (split.symm.trans body)
      rw [escaping.escaped_cons_of_escapes escapes, induction,
        escaping.escaped_cons_of_kept escaping.escapes_mark, split,
        escaping.escaped_append_of_plain plain, same]
  | case3 symbol text absent induction =>
      cases kept : escaping.escapes symbol with
      | true =>
          rw [escaping.escaped_cons_of_escapes kept, escaping.escaped_cons_of_escapes kept,
            induction]
      | false =>
          rw [escaping.escaped_cons_of_kept kept, escaping.escaped_cons_of_kept kept, induction]

/-- Two texts are written alike exactly if they are read alike. -/
theorem Exact.escaped_eq_iff (exact : reader.Exact) (one other : List Symbol) :
    escaping.escaped one = escaping.escaped other ↔
      reader.unescaped one = reader.unescaped other := by
  constructor
  · intro same
    rw [← unescaped_escaped, same, unescaped_escaped]
  · intro same
    rw [← exact.escaped_unescaped, same, exact.escaped_unescaped]

end EscapeReader

end ConnectSDK
