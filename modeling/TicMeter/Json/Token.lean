import TicMeter.Json
import TicMeter.Text.Numeral

/-!
# Token — the words of a JSON document

`Token.ofChars?` cuts a document into tokens: punctuation, string literals and other scalars. Blanks
between tokens have no meaning.
-/

namespace TicMeter
namespace Json

/-- A word of a document. A string literal that spells no text has none. -/
inductive Token
  | openArray
  | closeArray
  | openObject
  | closeObject
  | colon
  | comma
  | string (s : Option String)
  | scalar (j : Json)
  deriving Repr

namespace Token

/-! ## String literals -/

/-- One unit of a string literal: a character, or the number that a `\u` escape gives. -/
inductive TextUnit
  | char (c : Char)
  | number (n : Nat)
  deriving DecidableEq, Repr

def hexDigit? (c : Char) : Option Nat :=
  if '0' ≤ c ∧ c ≤ '9' then some (c.toNat - '0'.toNat)
  else if 'a' ≤ c ∧ c ≤ 'f' then some (c.toNat - 'a'.toNat + 10)
  else if 'A' ≤ c ∧ c ≤ 'F' then some (c.toNat - 'A'.toNat + 10)
  else none

def escape? : Char → Option Char
  | '"' => some '"'
  | '\\' => some '\\'
  | '/' => some '/'
  | 'b' => some '\x08'
  | 'f' => some '\x0c'
  | 'n' => some '\n'
  | 'r' => some '\r'
  | 't' => some '\t'
  | _ => none

/-- The units up to the closing quote, and what follows it. Controls must be escaped. -/
def readUnits : List Char → Option (List TextUnit × List Char)
  | [] => none
  | '"' :: rest => some ([], rest)
  | '\\' :: 'u' :: a :: b :: c :: d :: rest => do
      let a ← hexDigit? a
      let b ← hexDigit? b
      let c ← hexDigit? c
      let d ← hexDigit? d
      let (units, rest) ← readUnits rest
      some (.number (((a * 16 + b) * 16 + c) * 16 + d) :: units, rest)
  | '\\' :: e :: rest => do
      let c ← escape? e
      let (units, rest) ← readUnits rest
      some (.char c :: units, rest)
  | c :: rest =>
      if c.toNat < 0x20 ∨ c = '\\' then none
      else do
        let (units, rest) ← readUnits rest
        some (.char c :: units, rest)

theorem length_readUnits {cs rest : List Char} {units : List TextUnit}
    (h : readUnits cs = some (units, rest)) : rest.length < cs.length := by
  fun_induction readUnits cs generalizing units rest with
  | case1 => simp at h
  | case2 rest' => simp_all
  | case3 a b c d rest' ih =>
    simp only [bind, Option.bind_eq_some_iff, Option.some.injEq, Prod.mk.injEq] at h
    obtain ⟨_, -, _, -, _, -, _, -, ⟨units', rest''⟩, hrest, -, rfl⟩ := h
    have := ih hrest
    simp only [List.length_cons]
    omega
  | case4 e rest' _ ih =>
    simp only [bind, Option.bind_eq_some_iff, Option.some.injEq, Prod.mk.injEq] at h
    obtain ⟨_, -, ⟨units', rest''⟩, hrest, -, rfl⟩ := h
    have := ih hrest
    simp only [List.length_cons]
    omega
  | case5 => simp at h
  | case6 c rest' _ _ _ _ ih =>
    simp only [bind, Option.bind_eq_some_iff, Option.some.injEq, Prod.mk.injEq] at h
    obtain ⟨⟨units', rest''⟩, hrest, -, rfl⟩ := h
    have := ih hrest
    simp only [List.length_cons]
    omega

def isHighSurrogate (n : Nat) : Bool :=
  0xD800 ≤ n && n < 0xDC00

def isLowSurrogate (n : Nat) : Bool :=
  0xDC00 ≤ n && n < 0xE000

/-- The text that units spell. The two halves of a character stand side by side. -/
def spell : List TextUnit → Option (List Char)
  | [] => some []
  | .char c :: rest => (spell rest).map (c :: ·)
  | .number high :: .number low :: rest =>
      if isHighSurrogate high then
        -- both halves carry ten bits of the number past 0xFFFF
        if isLowSurrogate low then
          (spell rest).map
            (Char.ofNat (0x10000 + (high - 0xD800) * 0x400 + (low - 0xDC00)) :: ·)
        else none
      else if isLowSurrogate high then none
      else (spell (.number low :: rest)).map (Char.ofNat high :: ·)
  | .number n :: rest =>
      if isHighSurrogate n || isLowSurrogate n then none
      else (spell rest).map (Char.ofNat n :: ·)

/-! ## Numbers -/

def inNumber (c : Char) : Bool :=
  c.isDigit || c = '-' || c = '+' || c = '.' || c = 'e' || c = 'E'

/-- Digits without a leading zero, and what follows them. -/
def integerPart? (cs : List Char) : Option (List Char × List Char) :=
  let digits := cs.takeWhile Char.isDigit
  match digits with
  | [] => none
  | '0' :: _ :: _ => none
  | _ => some (digits, cs.dropWhile Char.isDigit)

def fractionPart? : List Char → Option (List Char × List Char)
  | '.' :: rest =>
      let digits := rest.takeWhile Char.isDigit
      if digits.isEmpty then none else some (digits, rest.dropWhile Char.isDigit)
  | rest => some ([], rest)

def exponent? : List Char → Option Int
  | [] => some 0
  | c :: rest =>
      let number? (digits : List Char) : Option Nat :=
        if Numeral.isDigits digits then some (Nat.ofDigitChars 10 digits 0) else none
      if c = 'e' ∨ c = 'E' then
        match rest with
        | '-' :: digits => (number? digits).map fun n => -(n : Int)
        | '+' :: digits => (number? digits).map Int.ofNat
        | digits => (number? digits).map Int.ofNat
      else none

/-- A number: an integer if it is written as one and fits 64 bits. Zero has no sign as an integer.
-/
def number? (cs : List Char) : Option Json := do
  let (negative, magnitude) :=
    match cs with
    | '-' :: rest => (true, rest)
    | _ => (false, cs)
  let (digits, rest) ← integerPart? magnitude
  let n := Nat.ofDigitChars 10 digits 0
  if rest.isEmpty ∧ ¬ negative ∧ n < UInt64.size then return .integer n
  else if rest.isEmpty ∧ negative ∧ 0 < n ∧ n ≤ UInt64.size / 2 then return .integer (-n)
  else
    let (places, rest) ← fractionPart? rest
    let exponent ← exponent? rest
    let d := (Scaled.readInteger ⟨0, 0⟩ digits).readFraction places
    return match Scaled.magnitude? ⟨d.digits, d.exponent + exponent⟩ with
      | some magnitude => .real ⟨negative, magnitude⟩
      | none => .illFormed

/-! ## Documents -/

def isBlank (c : Char) : Bool :=
  c = ' ' || c = '\n' || c = '\t' || c = '\r'

def ofChars? : List Char → Option (List Token)
  | [] => some []
  | 'n' :: 'u' :: 'l' :: 'l' :: rest => (ofChars? rest).map (.scalar .null :: ·)
  | 't' :: 'r' :: 'u' :: 'e' :: rest => (ofChars? rest).map (.scalar (.bool true) :: ·)
  | 'f' :: 'a' :: 'l' :: 's' :: 'e' :: rest => (ofChars? rest).map (.scalar (.bool false) :: ·)
  | '[' :: rest => (ofChars? rest).map (.openArray :: ·)
  | ']' :: rest => (ofChars? rest).map (.closeArray :: ·)
  | '\x7b' :: rest => (ofChars? rest).map (.openObject :: ·)
  | '\x7d' :: rest => (ofChars? rest).map (.closeObject :: ·)
  | ':' :: rest => (ofChars? rest).map (.colon :: ·)
  | ',' :: rest => (ofChars? rest).map (.comma :: ·)
  | '"' :: rest =>
      match _hunits : readUnits rest with
      | none => none
      | some (units, after) =>
          (ofChars? after).map (.string ((spell units).map String.ofList) :: ·)
  | c :: rest =>
      if isBlank c then ofChars? rest
      else if inNumber c then do
        let j ← number? (c :: rest.takeWhile inNumber)
        let tokens ← ofChars? (rest.dropWhile inNumber)
        some (.scalar j :: tokens)
      else none
  termination_by cs => cs.length
  decreasing_by
    all_goals simp only [List.length_cons]
    all_goals try omega
    -- a string and a number end where their own readers say
    · have := length_readUnits _hunits
      omega
    · have := (List.dropWhile_sublist inNumber (l := rest)).length_le
      omega

end Token
end Json
end TicMeter
