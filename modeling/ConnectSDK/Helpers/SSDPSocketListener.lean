import Mathlib.Data.List.Basic

/-! # The socket of SSDP discovery

The read handler of `SSDPSocketListener` reads datagrams until it has as many bytes as the
dispatch source estimates to be there, all into one buffer, and passes on the last of them.
The socket blocks when nothing is pending.
-/

namespace ConnectSDK

/-- A datagram, with the text of the address it is from. -/
structure Datagram where
  data : List UInt8
  address : String
  fits : data.length ≤ 65535
deriving DecidableEq

/-- What one `recvfrom` finds. -/
inductive Received where
  | datagram (datagram : Datagram)
  | error
deriving DecidableEq

namespace Received

/-- What `recvfrom` returns. -/
def bytes : Received → Int32
  | .datagram received => Int32.ofNat received.data.length
  | .error => -1

def nonempty? : Received → Option Datagram
  | .datagram received => if received.data = [] then none else some received
  | .error => none

end Received

structure SSDPSocketListener where
  socket : Int32
  hasDispatchSource : Bool

namespace SSDPSocketListener

/-- The datagrams that the loop reads; `none` if it blocks. The sum is an `int` that is
compared with a `size_t`. -/
def receive (theDataSize : UInt64) (pending : List Received) (theReceiveBytesSum : Int32) :
    Option (List Received) :=
  if theReceiveBytesSum.toInt64.toUInt64 < theDataSize then
    match pending with
    | [] => none
    | next :: rest =>
        (receive theDataSize rest (theReceiveBytesSum + next.bytes)).map fun reads =>
          next :: reads
  else some []

/-- The calls of `didReceiveData:fromAddress:`. -/
def passed (reads : List Received) : List Datagram :=
  match reads.getLast? with
  | some (.datagram datagram) =>
      if 0 < (Received.datagram datagram).bytes then [datagram] else []
  | _ => []

/-- What the handler reads, and what it passes to the delegate. `raiseError` does
nothing. -/
def handleEvent (listener : SSDPSocketListener) (theDataSize : UInt64)
    (pending : List Received) : Option (List Received × List Datagram) :=
  if listener.socket = 0 ∨ listener.hasDispatchSource = false then some ([], [])
  else (receive theDataSize pending 0).map fun reads => (reads, passed reads)

/-- The handler ends, and passes on each datagram it has read that is not empty. -/
def PassesAll (listener : SSDPSocketListener) (theDataSize : UInt64)
    (pending : List Received) : Prop :=
  ∃ reads delivered, listener.handleEvent theDataSize pending = some (reads, delivered) ∧
    delivered = reads.filterMap Received.nonempty?

/-- The first that is pending, but for empty datagrams, is an error or fills the estimate
by itself. -/
inductive FirstFills (theDataSize : UInt64) : List Received → Prop where
  | error (rest : List Received) : FirstFills theDataSize (.error :: rest)
  | datagram (datagram : Datagram) (rest : List Received)
      (fills : theDataSize.toNat ≤ datagram.data.length) :
      FirstFills theDataSize (.datagram datagram :: rest)
  | empty (datagram : Datagram) (rest : List Received) (isEmpty : datagram.data = [])
      (later : FirstFills theDataSize rest) :
      FirstFills theDataSize (.datagram datagram :: rest)

/-! ## Sums -/

theorem sizeOf_bytes (datagram : Datagram) :
    ((0 + (Received.datagram datagram).bytes).toInt64.toUInt64).toNat =
      datagram.data.length := by
  have fits := datagram.fits
  have small : (Int32.ofNat datagram.data.length).toInt = datagram.data.length :=
    Int32.toInt_ofNat_of_lt (by omega)
  have wide : (Int32.ofNat datagram.data.length).toInt64 =
      Int64.ofNat datagram.data.length := by
    apply Int64.toInt_inj.mp
    rw [Int32.toInt_toInt64, small, Int64.toInt_ofNat_of_lt (by omega)]
  rw [Received.bytes, Int32.zero_add, wide]
  exact UInt64.toNat_ofNat_of_lt' (by change _ < 18446744073709551616; omega)

theorem bytes_pos_iff (datagram : Datagram) :
    0 < (Received.datagram datagram).bytes ↔ datagram.data ≠ [] := by
  have fits := datagram.fits
  rw [Int32.lt_iff_toInt_lt, Received.bytes, Int32.toInt_ofNat_of_lt (by omega),
    ← List.length_pos_iff]
  exact Int.natCast_pos

theorem receive_of_enough {theDataSize : UInt64} {sum : Int32} (pending : List Received)
    (enough : ¬ sum.toInt64.toUInt64 < theDataSize) :
    receive theDataSize pending sum = some [] := by
  rw [receive.eq_def, if_neg enough]

theorem receive_cons {theDataSize : UInt64} {sum : Int32} (next : Received)
    (rest : List Received) (less : sum.toInt64.toUInt64 < theDataSize) :
    receive theDataSize (next :: rest) sum =
      (receive theDataSize rest (sum + next.bytes)).map fun reads => next :: reads := by
  rw [receive, if_pos less]

/-- A negative sum is larger than any size. -/
theorem error_enough (theDataSize : UInt64) :
    ¬ (0 + Received.error.bytes).toInt64.toUInt64 < theDataSize := by
  have largest : ((0 + Received.error.bytes).toInt64.toUInt64).toNat = 18446744073709551615 :=
    rfl
  have small : theDataSize.toNat < 18446744073709551616 := theDataSize.toNat_lt
  rw [UInt64.lt_iff_toNat_lt, largest]
  omega

/-! ## What is passed -/

theorem passed_cons {next : Received} {reads : List Received} (more : reads ≠ []) :
    passed (next :: reads) = passed reads := by
  rw [passed, passed, List.getLast?_cons]
  rcases Option.isSome_iff_exists.mp (List.getLast?_isSome.mpr more) with ⟨last, isLast⟩
  rw [isLast]
  rfl

theorem passed_singleton (next : Received) :
    passed [next] = [next].filterMap Received.nonempty? := by
  cases next with
  | error => rfl
  | datagram datagram =>
      rw [passed, List.getLast?_singleton]
      dsimp only
      by_cases empty : datagram.data = []
      · rw [if_neg fun positive => (bytes_pos_iff datagram).mp positive empty]
        simp [Received.nonempty?, empty]
      · rw [if_pos ((bytes_pos_iff datagram).mpr empty)]
        simp [Received.nonempty?, empty]

/-- What is passed has been read. -/
theorem passed_sublist (reads : List Received) :
    (passed reads).Sublist (reads.filterMap Received.nonempty?) := by
  induction reads with
  | nil => exact List.Sublist.slnil
  | cons next reads induction =>
      by_cases more : reads = []
      · rw [more, passed_singleton]
      · rw [passed_cons more]
        exact induction.trans ((List.sublist_cons_self next reads).filterMap _)

/-- A datagram that is not empty is lost when anything is read after it. -/
theorem passed_ne {datagram : Datagram} {reads : List Received}
    (nonempty : datagram.data ≠ []) (more : reads ≠ []) :
    passed (.datagram datagram :: reads) ≠
      (Received.datagram datagram :: reads).filterMap Received.nonempty? := by
  intro same
  have kept : Received.nonempty? (.datagram datagram) = some datagram := if_neg nonempty
  have length := (passed_sublist reads).length_le
  rw [passed_cons more, List.filterMap_cons_some kept] at same
  rw [same, List.length_cons] at length
  omega

theorem passed_cons_empty {datagram : Datagram} (reads : List Received)
    (isEmpty : datagram.data = []) : passed (.datagram datagram :: reads) = passed reads := by
  by_cases more : reads = []
  · rw [more, passed_singleton]
    exact List.filterMap_cons_none (if_pos isEmpty)
  · exact passed_cons more

/-! ## The loop -/

/-- What the loop reads is passed on. -/
def Delivers (theDataSize : UInt64) (pending : List Received) (sum : Int32) : Prop :=
  ∃ reads, receive theDataSize pending sum = some reads ∧
    passed reads = reads.filterMap Received.nonempty?

section Loop

variable {theDataSize : UInt64} (positive : theDataSize ≠ 0)
include positive

theorem zero_less : (0 : Int32).toInt64.toUInt64 < theDataSize := by
  rw [UInt64.lt_iff_toNat_lt]
  change 0 < theDataSize.toNat
  exact Nat.pos_of_ne_zero fun zero => positive (UInt64.toNat_inj.mp zero)

theorem not_delivers_nil : ¬ Delivers theDataSize [] 0 := by
  rintro ⟨reads, read, _⟩
  rw [receive, if_pos (zero_less positive)] at read
  cases read

theorem delivers_last {next : Received} (rest : List Received)
    (enough : ¬ (0 + next.bytes).toInt64.toUInt64 < theDataSize) :
    Delivers theDataSize (next :: rest) 0 := by
  refine ⟨[next], ?_, passed_singleton next⟩
  rw [receive_cons next rest (zero_less positive), receive_of_enough rest enough]
  rfl

theorem delivers_empty_iff {datagram : Datagram} (rest : List Received)
    (isEmpty : datagram.data = []) :
    Delivers theDataSize (.datagram datagram :: rest) 0 ↔ Delivers theDataSize rest 0 := by
  have nothing : (0 : Int32) + (Received.datagram datagram).bytes = 0 := by
    rw [Received.bytes, isEmpty]
    rfl
  have left (reads : List Received) : (Received.datagram datagram :: reads).filterMap
      Received.nonempty? = reads.filterMap Received.nonempty? :=
    List.filterMap_cons_none (if_pos isEmpty)
  rw [Delivers, receive_cons _ rest (zero_less positive), nothing]
  constructor
  · rintro ⟨_, read, same⟩
    rcases Option.map_eq_some_iff.mp read with ⟨reads, later, rfl⟩
    rw [passed_cons_empty reads isEmpty, left] at same
    exact ⟨reads, later, same⟩
  · rintro ⟨reads, read, same⟩
    refine ⟨.datagram datagram :: reads, by rw [read]; rfl, ?_⟩
    rw [passed_cons_empty reads isEmpty, left, same]

/-- A datagram that does not fill the estimate is overwritten, or the loop blocks. -/
theorem not_delivers_small {datagram : Datagram} (rest : List Received)
    (nonempty : datagram.data ≠ [])
    (less : (0 + (Received.datagram datagram).bytes).toInt64.toUInt64 < theDataSize) :
    ¬ Delivers theDataSize (.datagram datagram :: rest) 0 := by
  rintro ⟨_, read, same⟩
  rw [receive_cons _ rest (zero_less positive)] at read
  rcases Option.map_eq_some_iff.mp read with ⟨reads, later, rfl⟩
  refine passed_ne nonempty ?_ same
  rintro rfl
  cases rest with
  | nil =>
      rw [receive, if_pos less] at later
      cases later
  | cons next rest =>
      rw [receive_cons next rest less] at later
      rcases Option.map_eq_some_iff.mp later with ⟨_, _, impossible⟩
      cases impossible

theorem delivers_iff (pending : List Received) :
    Delivers theDataSize pending 0 ↔ FirstFills theDataSize pending := by
  induction pending with
  | nil => exact iff_of_false (not_delivers_nil positive) nofun
  | cons next rest induction =>
      cases next with
      | error =>
          exact iff_of_true (delivers_last positive rest (error_enough theDataSize)) (.error rest)
      | datagram datagram =>
          by_cases isEmpty : datagram.data = []
          · rw [delivers_empty_iff positive rest isEmpty, induction]
            constructor
            · exact FirstFills.empty datagram rest isEmpty
            · intro fills
              cases fills with
              | datagram _ _ fills =>
                  rw [isEmpty] at fills
                  exact absurd (UInt64.toNat_inj.mp (Nat.le_zero.mp fills)) positive
              | empty _ _ _ later => exact later
          · by_cases less : (0 + (Received.datagram datagram).bytes).toInt64.toUInt64 <
                theDataSize
            · refine iff_of_false (not_delivers_small positive rest isEmpty less) ?_
              rw [UInt64.lt_iff_toNat_lt, sizeOf_bytes] at less
              intro fills
              cases fills with
              | datagram _ _ fills => omega
              | empty _ _ none _ => exact isEmpty none
            · refine iff_of_true (delivers_last positive rest less) (.datagram datagram rest ?_)
              rw [UInt64.lt_iff_toNat_lt, sizeOf_bytes] at less
              omega

end Loop

/-! ## The handler -/

/-- The handler ends and passes on what it has read exactly if it reads nothing, or what it
reads first fills the estimate. -/
theorem passesAll_iff (listener : SSDPSocketListener) (theDataSize : UInt64)
    (pending : List Received) :
    listener.PassesAll theDataSize pending ↔
      listener.socket = 0 ∨ listener.hasDispatchSource = false ∨ theDataSize = 0 ∨
        FirstFills theDataSize pending := by
  by_cases closed : listener.socket = 0 ∨ listener.hasDispatchSource = false
  · refine iff_of_true ⟨[], [], ?_, rfl⟩ (closed.elim .inl fun closed => .inr (.inl closed))
    rw [handleEvent, if_pos closed]
  · have delivers : listener.PassesAll theDataSize pending ↔
        Delivers theDataSize pending 0 := by
      rw [PassesAll, handleEvent, if_neg closed, Delivers]
      refine exists_congr fun reads => ?_
      constructor
      · rintro ⟨delivered, handled, same⟩
        rcases Option.map_eq_some_iff.mp handled with ⟨_, read, pair⟩
        cases pair
        exact ⟨read, same⟩
      · rintro ⟨read, same⟩
        exact ⟨_, by rw [read, Option.map_some], same⟩
    rw [← or_assoc, or_iff_right closed, delivers]
    by_cases nothing : theDataSize = 0
    · refine iff_of_true ⟨[], ?_, rfl⟩ (.inl nothing)
      exact receive_of_enough pending (by rw [nothing]; decide)
    · rw [or_iff_right nothing, delivers_iff nothing]

/-- Of two datagrams that are pending the first is overwritten. -/
theorem first_datagram_lost :
    ¬ PassesAll { socket := 3, hasDispatchSource := true } 3
      [.datagram { data := [1], address := "10.0.0.1", fits := by decide },
        .datagram { data := [2, 3], address := "10.0.0.2", fits := by decide }] := by
  rintro ⟨reads, delivered, handled, same⟩
  cases handled
  exact absurd same (by decide)

end SSDPSocketListener

end ConnectSDK
