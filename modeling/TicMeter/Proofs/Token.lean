import Mathlib.Data.List.Basic
import Mathlib.Data.List.TakeWhile
import Mathlib.Tactic.SplitIfs
import TicMeter.Json.Token

/-!
# Token — what is written is cut into the tokens it was written for

A text `Lexes` to tokens if it is cut into them whatever comes after it. Only a number may run on,
so what comes after must not begin with a character of a number (`EndsNumber`).

* `Lexes.literal`: a string literal spells its string, whatever characters are in it.
* `Lexes.integer`: the digits of an integer without a sign.
* `Lexes.append`, `Lexes.mark`, `Lexes.newLine`: texts put together, marks and blanks.
* `Lexes.separated`, `Lexes.member`, `Lexes.enclosed`: what containers are made of.
-/

namespace TicMeter
namespace Json
namespace Token

/-! ## String literals -/

/-- Whether a unit gives a character by itself. Half a character does not. -/
def TextUnit.Gives (c : Char) : TextUnit → Prop
  | .char c' => c' = c
  | .number n => n < 0x20 ∧ Char.ofNat n = c

theorem spell_cons {unit : TextUnit} {c : Char} (h : unit.Gives c) (units : List TextUnit) :
    spell (unit :: units) = (spell units).map (c :: ·) := by
  cases unit with
  | char c' => rw [← show c' = c from h, spell]
  | number n =>
    rcases h with ⟨hn, rfl⟩
    have hhigh : isHighSurrogate n = false := by simp [isHighSurrogate]; omega
    have hlow : isLowSurrogate n = false := by simp [isLowSurrogate]; omega
    -- the unit that comes next decides whether the number may be half a character
    cases units with
    | nil => simp [spell, hhigh, hlow]
    | cons next rest => cases next <;> simp [spell, hhigh, hlow]

theorem hexDigit?_digitChar : ∀ d < 16, hexDigit? d.digitChar = some d := by decide

theorem leftpad_toDigits : ∀ n < 0x20,
    (Nat.toDigits 16 n).leftpad 4 '0' = ['0', '0', (n / 16).digitChar, (n % 16).digitChar] := by
  decide

/-- Whether a text is read as one unit, in front of whatever comes after it. -/
def Reads (text : List Char) (unit : TextUnit) : Prop :=
  ∀ rest, readUnits (text ++ rest) =
    (readUnits rest).map fun (units, after) => (unit :: units, after)

theorem reads_escape {e c : Char} (hu : e ≠ 'u') (h : escape? e = some c) :
    Reads ['\\', e] (.char c) := by
  intro rest
  rw [List.cons_append, List.cons_append, List.nil_append, readUnits]
  · rw [h]
    cases readUnits rest <;> rfl
  · simp [hu]

theorem reads_number {n : Nat} (h : n < 0x20) :
    Reads (['\\', 'u'] ++ (Nat.toDigits 16 n).leftpad 4 '0') (.number n) := by
  intro rest
  have hhigh := hexDigit?_digitChar (n / 16) (by omega)
  have hlow := hexDigit?_digitChar (n % 16) (by omega)
  have hzero : hexDigit? '0' = some 0 := rfl
  have hn : ((0 * 16 + 0) * 16 + n / 16) * 16 + n % 16 = n := by omega
  rw [leftpad_toDigits n h]
  simp only [List.cons_append, List.nil_append, readUnits, hzero, hhigh, hlow, bind,
    Option.bind_some, hn]
  cases readUnits rest <;> rfl

theorem reads_char {c : Char} (h : ¬ c.toNat < 0x20) (hquote : c ≠ '"') (hback : c ≠ '\\') :
    Reads [c] (.char c) := by
  intro rest
  rw [List.cons_append, List.nil_append, readUnits, if_neg (by simp [h, hback])]
  · cases readUnits rest <;> rfl
  · simp [hquote]
  · simp [hback]
  · simp [hback]

/-- However a character is written inside a literal, it is read as one unit that gives it. -/
theorem reads_escapedChar (c : Char) :
    ∃ unit : TextUnit, unit.Gives c ∧ Reads (escapedChar c) unit := by
  unfold escapedChar
  split_ifs with hquote hback hn hr ht hb hf hcontrol
  · exact ⟨.char c, rfl, reads_escape (by decide) (by rw [hquote]; rfl)⟩
  · exact ⟨.char c, rfl, reads_escape (by decide) (by rw [hback]; rfl)⟩
  · exact ⟨.char c, rfl, reads_escape (by decide) (by rw [hn]; rfl)⟩
  · exact ⟨.char c, rfl, reads_escape (by decide) (by rw [hr]; rfl)⟩
  · exact ⟨.char c, rfl, reads_escape (by decide) (by rw [ht]; rfl)⟩
  · exact ⟨.char c, rfl, reads_escape (by decide) (by rw [hb]; rfl)⟩
  · exact ⟨.char c, rfl, reads_escape (by decide) (by rw [hf]; rfl)⟩
  · exact ⟨.number c.toNat, ⟨hcontrol, Char.ofNat_toNat c⟩, reads_number hcontrol⟩
  · exact ⟨.char c, rfl, reads_char hcontrol hquote hback⟩

/-- The units of a literal end at the quote that closes it and spell its text. -/
theorem readUnits_literal (cs rest : List Char) : ∃ units : List TextUnit,
    readUnits (cs.flatMap escapedChar ++ '"' :: rest) = some (units, rest) ∧
      spell units = some cs := by
  induction cs with
  | nil => exact ⟨[], by rw [List.flatMap_nil, List.nil_append, readUnits], rfl⟩
  | cons c cs ih =>
    rcases ih with ⟨units, hread, hspell⟩
    rcases reads_escapedChar c with ⟨unit, hgives, hreads⟩
    refine ⟨unit :: units, ?_, ?_⟩
    · rw [List.flatMap_cons, List.append_assoc, hreads, hread]
      rfl
    · rw [spell_cons hgives, hspell]
      rfl

/-! ## Numbers -/

theorem isDigit_toDigits {n : Nat} : ∀ c ∈ Nat.toDigits 10 n, c.isDigit :=
  fun _ hc => Nat.isDigit_of_mem_toDigits (by decide) (by decide) hc

theorem head?_toDigits_ne {n : Nat} (h : 0 < n) : (Nat.toDigits 10 n).head? ≠ some '0' := by
  induction n using Nat.strongRecOn with
  | ind n ih =>
    rw [Nat.toDigits_eq_if (by decide)]
    split
    · simpa using Nat.ne_of_gt h
    · have htens := ih (n / 10) (by omega) (by omega)
      rwa [List.head?_append_of_ne_nil _ Nat.toDigits_ne_nil]

theorem integerPart?_toDigits (n : Nat) :
    integerPart? (Nat.toDigits 10 n) = some (Nat.toDigits 10 n, []) := by
  have htake : (Nat.toDigits 10 n).takeWhile Char.isDigit = Nat.toDigits 10 n :=
    List.takeWhile_eq_self_iff.2 isDigit_toDigits
  have hdrop : (Nat.toDigits 10 n).dropWhile Char.isDigit = [] :=
    List.dropWhile_eq_nil_iff.2 isDigit_toDigits
  unfold integerPart?
  rw [htake, hdrop]
  -- zero is the only integer that begins with a zero
  rcases Nat.eq_zero_or_pos n with rfl | hpos
  · rfl
  · have hhead := head?_toDigits_ne hpos
    dsimp only
    split
    · next hnil => exact absurd hnil Nat.toDigits_ne_nil
    · next hzero => simp [hzero] at hhead
    · rfl

theorem number?_toDigits {n : Nat} (h : n < UInt64.size) :
    number? (Nat.toDigits 10 n) = some (.integer n) := by
  have hsign : ∀ rest, Nat.toDigits 10 n ≠ '-' :: rest := by
    intro rest hrest
    have hdigit := isDigit_toDigits (n := n) '-' (by simp [hrest])
    simp at hdigit
  unfold number?
  split
  next negative magnitude hmatch =>
  split at hmatch
  · next rest heq => exact absurd heq (hsign rest)
  · rcases hmatch
    simp [integerPart?_toDigits, Nat.ofDigitChars_ten_toDigits, h]

/-! ## One token -/

theorem inNumber_of_isBlank {c : Char} (h : isBlank c) : inNumber c = false := by
  simp only [isBlank, Bool.or_eq_true, decide_eq_true_eq] at h
  rcases h with ((rfl | rfl) | rfl) | rfl <;> rfl

theorem ofChars?_number {c : Char} (h : inNumber c) (rest : List Char) :
    ofChars? (c :: rest) = (do
      let j ← number? (c :: rest.takeWhile inNumber)
      let tokens ← ofChars? (rest.dropWhile inNumber)
      some (.scalar j :: tokens)) := by
  have hblank : ¬ isBlank c := by
    intro hblank
    simp [inNumber_of_isBlank hblank] at h
  rw [ofChars?, if_neg hblank, if_pos h]
  -- no number begins as any other token does
  all_goals
    intros
    subst c
    exact absurd h (by decide)

theorem ofChars?_blank {c : Char} (h : isBlank c) (rest : List Char) :
    ofChars? (c :: rest) = ofChars? rest := by
  rw [ofChars?, if_pos h]
  all_goals
    intros
    subst c
    exact absurd h (by decide)

def mark? : Token → Option Char
  | .openArray => some '['
  | .closeArray => some ']'
  | .openObject => some '\x7b'
  | .closeObject => some '\x7d'
  | .colon => some ':'
  | .comma => some ','
  | .string _ | .scalar _ => none

theorem ofChars?_mark {token : Token} {c : Char} (h : token.mark? = some c) (rest : List Char) :
    ofChars? (c :: rest) = (ofChars? rest).map (token :: ·) := by
  cases token with
  | string s => cases h
  | scalar j => cases h
  | openArray | closeArray | openObject | closeObject | colon | comma =>
    cases h
    rw [ofChars?]

theorem inNumber_of_mark {token : Token} {c : Char} (h : token.mark? = some c) :
    inNumber c = false := by
  cases token <;> cases h <;> rfl

/-! ## Texts and their tokens -/

/-- Whether a number in front of a text ends where the text begins. -/
def EndsNumber (text : List Char) : Prop :=
  ∀ c ∈ text.head?, inNumber c = false

namespace EndsNumber

theorem nil : EndsNumber [] := by
  intro c hc
  cases hc

theorem cons {c : Char} (h : inNumber c = false) (text : List Char) : EndsNumber (c :: text) := by
  intro d hd
  cases hd
  exact h

theorem append {text rest : List Char} (h : EndsNumber text) (hrest : EndsNumber rest) :
    EndsNumber (text ++ rest) := by
  cases text with
  | nil => exact hrest
  | cons c text => exact h

theorem flatMap {α : Type} {write : α → List Char} (h : ∀ a, EndsNumber (write a)) (as : List α) :
    EndsNumber (as.flatMap write) := by
  induction as with
  | nil => exact nil
  | cons a rest ih => exact (h a).append ih

theorem takeWhile {text : List Char} (h : EndsNumber text) : text.takeWhile inNumber = [] := by
  cases text with
  | nil => rfl
  | cons c text => simp [h c rfl]

theorem dropWhile {text : List Char} (h : EndsNumber text) : text.dropWhile inNumber = text := by
  cases text with
  | nil => rfl
  | cons c text => simp [h c rfl]

end EndsNumber

/-- Whether a text is cut into the given tokens, whatever comes after it. -/
def Lexes (text : List Char) (tokens : List Token) : Prop :=
  ∀ rest, EndsNumber rest → ofChars? (text ++ rest) = (ofChars? rest).map (tokens ++ ·)

namespace Lexes

variable {text more : List Char} {tokens others : List Token}

theorem nil : Lexes [] [] := by
  intro rest _
  simp

theorem append (h : Lexes text tokens) (hends : EndsNumber more) (hmore : Lexes more others) :
    Lexes (text ++ more) (tokens ++ others) := by
  intro rest hrest
  rw [List.append_assoc, h _ (hends.append hrest), hmore rest hrest, Option.map_map]
  simp [Function.comp_def]

theorem mark (token : Token) {c : Char} (hc : token.mark? = some c) (h : Lexes text tokens) :
    Lexes (c :: text) (token :: tokens) := by
  intro rest hrest
  rw [List.cons_append, ofChars?_mark hc, h rest hrest, Option.map_map]
  rfl

theorem blank {c : Char} (hc : isBlank c) (h : Lexes text tokens) : Lexes (c :: text) tokens := by
  intro rest hrest
  rw [List.cons_append, ofChars?_blank hc, h rest hrest]

theorem newLine (depth : Nat) (h : Lexes text tokens) :
    Lexes (Json.newLine depth ++ text) tokens := by
  have hblanks : ∀ n, Lexes (List.replicate n ' ' ++ text) tokens := by
    intro n
    induction n with
    | zero => exact h
    | succ n ih => exact ih.blank rfl
  exact (hblanks _).blank rfl

theorem trailing (h : Lexes text tokens) (depth : Nat) :
    Lexes (text ++ Json.newLine depth) tokens := by
  have hline : Lexes (Json.newLine depth) [] := by
    simpa using nil.newLine depth
  have hends : EndsNumber (Json.newLine depth) := .cons rfl _
  simpa using h.append hends hline

theorem null : Lexes (Json.scalar .null) [.scalar .null] := by
  intro rest _
  simp [Json.scalar, ofChars?]

theorem bool (b : Bool) : Lexes (Json.scalar (.bool b)) [.scalar (.bool b)] := by
  intro rest _
  cases b <;> simp [Json.scalar, ofChars?]

theorem integer {n : Nat} (h : n < UInt64.size) :
    Lexes (Json.scalar (.integer n)) [.scalar (.integer n)] := by
  intro rest hrest
  have htext : Json.scalar (.integer n) = Nat.toDigits 10 n := Nat.toList_repr
  have hread := number?_toDigits h
  have hmem : ∀ c ∈ Nat.toDigits 10 n, inNumber c := by
    intro c hc
    simp [inNumber, isDigit_toDigits c hc]
  rcases List.exists_cons_of_ne_nil (Nat.toDigits_ne_nil (n := n) (b := 10)) with ⟨c, digits, hc⟩
  rw [hc] at htext hread hmem
  have hdigits : ∀ d ∈ digits, inNumber d := fun d hd => hmem d (List.mem_cons_of_mem _ hd)
  rw [htext, List.cons_append, ofChars?_number (hmem c List.mem_cons_self),
    List.takeWhile_append_of_pos hdigits, List.dropWhile_append_of_pos hdigits, hrest.takeWhile,
    hrest.dropWhile, List.append_nil, hread]
  cases ofChars? rest <;> rfl

theorem literal (s : String) : Lexes (Json.literal s) [.string (some s)] := by
  intro rest _
  rcases readUnits_literal s.toList rest with ⟨units, hread, hspell⟩
  have htext : Json.literal s ++ rest = '"' :: (s.toList.flatMap escapedChar ++ '"' :: rest) := by
    simp [Json.literal]
  rw [htext, ofChars?]
  split
  · next hnone => simp [hread] at hnone
  · next units' after hsome =>
    rw [hread] at hsome
    cases hsome
    simp [hspell]

/-- Marks around a text. -/
theorem enclosed (opening closing : Token) {o c : Char} (ho : opening.mark? = some o)
    (hc : closing.mark? = some c) (h : Lexes text tokens) :
    Lexes (o :: text ++ [c]) (opening :: tokens ++ [closing]) :=
  (h.append (.cons (inNumber_of_mark hc) []) (nil.mark closing hc)).mark opening ho

/-- Texts one behind the other, a comma before each but the first. -/
theorem separated {α : Type} {write : α → List Char} {tokensOf : α → List Token} {first : α}
    {rest : List α} (h : ∀ a ∈ first :: rest, Lexes (write a) (tokensOf a)) :
    Lexes (write first ++ rest.flatMap fun a => ',' :: write a)
      (tokensOf first ++ rest.flatMap fun a => .comma :: tokensOf a) := by
  rw [List.forall_mem_cons] at h
  -- a comma ends a number, so it does not matter what stands in front of it
  refine h.1.append (.flatMap (fun a => .cons rfl (write a)) rest) ?_
  replace h := h.2
  induction rest with
  | nil => exact nil
  | cons a rest ih =>
    rw [List.forall_mem_cons] at h
    exact (h.1.mark .comma rfl).append (.flatMap (fun a => .cons rfl (write a)) rest) (ih h.2)

/-- A key, a colon and a value. -/
theorem member (key : String) (h : Lexes text tokens) :
    Lexes (Json.literal key ++ ':' :: text) (.string (some key) :: .colon :: tokens) :=
  (literal key).append (.cons rfl text) (h.mark .colon rfl)

end Lexes

end Token
end Json
end TicMeter
