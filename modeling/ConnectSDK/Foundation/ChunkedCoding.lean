import ConnectSDK.Foundation.FirstOccurrence
import ConnectSDK.Foundation.HexNumbers

/-! # Chunked transfer coding

The bodies of HTTP that are sent in chunks, each with its size before it.
-/

namespace ConnectSDK

open FirstOccurrence HexNumbers

namespace ChunkedCoding

def crlf : List UInt8 := [0x0D, 0x0A]

theorem crlf_ne_nil : crlf ≠ [] :=
  List.cons_ne_nil _ _

theorem length_crlf : crlf.length = 2 :=
  rfl

theorem emptyLine_ne_nil : crlf ++ crlf ≠ [] :=
  List.cons_ne_nil _ _

def semicolon : UInt8 := 0x3B

/-- A line that states a size, with extensions after a semicolon. -/
structure SizeLine (line : List UInt8) (size : Nat) : Prop where
  ends : Ends crlf (line ++ crlf)
  digits : ∃ digits extension, line = digits ++ extension ∧ digits ≠ [] ∧
    (∀ digit ∈ digits, isHexByte digit = true) ∧ hexNumber digits = size ∧
      (extension = [] ∨ extension.head? = some semicolon)

/-- The bytes of a body, the data of its chunks, and the trailers after the last one, which end with
an empty line. -/
inductive Encodes (trailers : List UInt8) : List UInt8 → List (List UInt8) → Prop where
  | last {line : List UInt8} (size : SizeLine line 0)
      (ends : Ends (crlf ++ crlf) (crlf ++ trailers)) :
      Encodes trailers (line ++ (crlf ++ trailers)) []
  | chunk {line data rest : List UInt8} {chunks : List (List UInt8)}
      (size : SizeLine line data.length) (nonempty : data ≠ [])
      (more : Encodes trailers rest chunks) :
      Encodes trailers (line ++ (crlf ++ (data ++ (crlf ++ rest)))) (data :: chunks)

theorem Encodes.length_le {trailers bytes : List UInt8} {chunks : List (List UInt8)}
    (encodes : Encodes trailers bytes chunks) : trailers.length ≤ bytes.length := by
  induction encodes with
  | last size ends =>
      simp only [List.length_append]
      omega
  | chunk size nonempty more induction =>
      simp only [List.length_append]
      omega

/-- A chunk as it is sent without extensions. -/
def chunk (data : List UInt8) : List UInt8 :=
  hexDigits data.length ++ crlf ++ data ++ crlf

def lastChunk : List UInt8 :=
  [0x30, 0x0D, 0x0A, 0x0D, 0x0A]

theorem ends_crlf {line : List UInt8} (noReturn : (0x0D : UInt8) ∉ line) :
    Ends crlf (line ++ crlf) where
  occurs := List.suffix_append line crlf
  first := by
    have shorter : (line ++ crlf).dropLast = line ++ [0x0D] := by
      rw [crlf, List.append_cons, List.dropLast_concat]
    rw [shorter]
    rintro ⟨before, after, same⟩
    have whole := congrArg List.dropLast same
    rw [List.dropLast_concat, List.append_assoc, crlf, List.cons_append,
      List.dropLast_append_of_ne_nil (List.cons_ne_nil _ _)] at whole
    apply noReturn
    rw [← whole]
    simp

theorem sizeLine_hexDigits (size : Nat) : SizeLine (hexDigits size) size where
  ends := by
    refine ends_crlf fun member => ?_
    have digit := isHexByte_hexDigits size _ member
    revert digit
    decide
  digits := ⟨hexDigits size, [], (List.append_nil _).symm, hexDigits_ne_nil size,
    isHexByte_hexDigits size, hexNumber_hexDigits size, .inl rfl⟩

theorem encodes_lastChunk : Encodes crlf lastChunk [] := by
  have ends : Ends (crlf ++ crlf) (crlf ++ crlf) :=
    ⟨List.suffix_rfl, fun occurs => absurd occurs.length_le (by decide)⟩
  exact .last (sizeLine_hexDigits 0) ends

/-- Chunks and a last one are a body. -/
theorem encodes_chunks : ∀ {chunks : List (List UInt8)}, (∀ data ∈ chunks, data ≠ []) →
    Encodes crlf (chunks.flatMap chunk ++ lastChunk) chunks
  | [], _ => encodes_lastChunk
  | data :: chunks, nonempty => by
      have more := encodes_chunks fun other member => nonempty other (List.mem_cons_of_mem _ member)
      have first := Encodes.chunk (sizeLine_hexDigits data.length)
        (nonempty data List.mem_cons_self) more
      simpa [chunk] using first

end ChunkedCoding

end ConnectSDK
