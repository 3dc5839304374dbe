import ConnectSDK.Foundation.PercentEscapes
import ConnectSDK.Foundation.TextReplacement

/-! # Encodings of text

`ConnectUtil` escapes text for URLs and for markup. Occurrences of text are found
character by character.
-/

namespace ConnectSDK

/-- The conversion of a `size_t` to `int`. -/
def intOfSize (size : Nat) : Int :=
  (size : Int).bmod 4294967296

theorem intOfSize_of_lt {size : Nat} (small : size < 2147483648) : intOfSize size = size := by
  unfold intOfSize
  rw [Int.bmod_def]
  split <;> omega

theorem le_intOfSize_iff (size : Nat) :
    size ≤ (intOfSize size).toNat ↔ size < 2147483648 := by
  unfold intOfSize
  rw [Int.bmod_def]
  split <;> omega

namespace ConnectUtil

/-! ## URLs -/

/-- One byte of the C string. -/
def urlEncodeByte (thisChar : UInt8) : List Char :=
  match Char.ofNat thisChar.toNat with
  | ' ' => "%20".toList
  | '!' => "%21".toList
  | '"' => "%22".toList
  | '#' => "%23".toList
  | '$' => "%24".toList
  | '%' => "%25".toList
  | '&' => "%26".toList
  | '\'' => "%27".toList
  | '(' => "%28".toList
  | ')' => "%29".toList
  | '*' => "%2A".toList
  | '+' => "%2B".toList
  | ',' => "%2C".toList
  | '-' => "%2D".toList
  | '.' => "%2E".toList
  | '/' => "%2F".toList
  | ':' => "%3A".toList
  | ';' => "%3B".toList
  | '<' => "%3C".toList
  | '=' => "%3D".toList
  | '>' => "%3E".toList
  | '?' => "%3F".toList
  | '@' => "%40".toList
  | character => if character.isAlphanum then [character] else percentEscape thisChar

/-- The bytes up to the one that ends a C string. -/
def cString (text : String) : List UInt8 :=
  (utf8Bytes text).takeWhile (· ≠ 0)

/-- The loop counts to the length of the C string as an `int`. -/
def urlEncode (targetString : String) : String :=
  let source := cString targetString
  let sourceLen := intOfSize source.length
  String.ofList ((source.take sourceLen.toNat).flatMap urlEncodeByte)

def urlDecode (targetString : String) : Option String :=
  replacingPercentEscapes (replacingOccurrences ['+'] [' '] targetString.toList)

/-! ## Markup -/

def entityEncode (input : String) : String :=
  String.ofList
    (replacingOccurrences "<".toList "&lt;".toList
      (replacingOccurrences ">".toList "&gt;".toList
        (replacingOccurrences "\"".toList "&quot;".toList
          (replacingOccurrences "&".toList "&amp;".toList input.toList))))

def entityDecode (input : String) : String :=
  String.ofList
    (replacingOccurrences "&lt;".toList "<".toList
      (replacingOccurrences "&gt;".toList ">".toList
        (replacingOccurrences "&quot;".toList "\"".toList
          (replacingOccurrences "&amp;".toList "&".toList input.toList))))

end ConnectUtil

end ConnectSDK
