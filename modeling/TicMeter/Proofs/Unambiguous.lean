import TicMeter.Proofs.Document

/-!
# Unambiguous — a compact text has one meaning

Numbers past 64 bits are not read back as they were written. Their texts tell them apart
nevertheless, and so do the texts of whole documents: each shows by itself where it ends.

* `Json.literal_append_inj`, `Json.toDigits_append_inj`: string literals and numbers.
* `Json.listed_append_inj`: texts between commas, up to the mark that ends them.
* `Json.Written.compact_append_inj`: whole values, by what they begin with.
-/

namespace TicMeter
namespace Json

open Token

/-! ## Scalars -/

theorem literal_append_inj {s s' : String} {rest rest' : List Char}
    (h : literal s ++ rest = literal s' ++ rest') : s = s' ∧ rest = rest' := by
  have hbody : s.toList.flatMap escapedChar ++ '"' :: rest =
      s'.toList.flatMap escapedChar ++ '"' :: rest' := by
    simpa [literal] using h
  rcases readUnits_literal s.toList rest with ⟨units, hread, hspell⟩
  rcases readUnits_literal s'.toList rest' with ⟨units', hread', hspell'⟩
  -- the same units are read, and what comes behind them is the same
  rw [hbody, hread'] at hread
  cases hread
  rw [hspell] at hspell'
  exact ⟨String.toList_inj.1 (Option.some.inj hspell'), rfl⟩

theorem toDigits_append_inj {m n : Nat} {rest rest' : List Char} (hrest : EndsNumber rest)
    (hrest' : EndsNumber rest') (h : Nat.toDigits 10 m ++ rest = Nat.toDigits 10 n ++ rest') :
    m = n ∧ rest = rest' := by
  have hnumber (k : Nat) : ∀ c ∈ Nat.toDigits 10 k, inNumber c := by
    intro c hc
    simp [inNumber, isDigit_toDigits c hc]
  have hdigits := congrArg (List.takeWhile inNumber) h
  rw [List.takeWhile_append_of_pos (hnumber m), List.takeWhile_append_of_pos (hnumber n),
    hrest.takeWhile, hrest'.takeWhile, List.append_nil, List.append_nil] at hdigits
  refine ⟨?_, ?_⟩
  · calc m = Nat.ofDigitChars 10 (Nat.toDigits 10 m) 0 := Nat.ofDigitChars_ten_toDigits.symm
      _ = Nat.ofDigitChars 10 (Nat.toDigits 10 n) 0 := by rw [hdigits]
      _ = n := Nat.ofDigitChars_ten_toDigits
  · rw [hdigits] at h
    exact List.append_cancel_left h

/-! ## Lists -/

section Listed

variable {α : Type} (write : α → List Char)

def listed : List α → List Char
  | [] => []
  | a :: rest => write a ++ rest.flatMap fun b => ',' :: write b

/-- Where the text of a value ends can be seen, if it is known which values may stand there. -/
def EndsBy (may : α → Prop) (a : α) : Prop :=
  ∀ b, may b → ∀ rest rest', EndsNumber rest → EndsNumber rest' →
    write a ++ rest = write b ++ rest' → a = b ∧ rest = rest'

variable {write} {may : α → Prop} {close : Char}

/-- A number in front of a comma, or of the mark, ends there. -/
theorem endsNumber_flatMap (hclose : inNumber close = false) (as : List α) (rest : List Char) :
    EndsNumber ((as.flatMap fun a => ',' :: write a) ++ close :: rest) :=
  (EndsNumber.flatMap (fun a => .cons rfl (write a)) as).append (.cons hclose rest)

theorem flatMap_append_inj (hcomma : close ≠ ',') (hclose : inNumber close = false)
    {as bs : List α} (has : ∀ a ∈ as, EndsBy write may a) (hbs : ∀ b ∈ bs, may b)
    {rest rest' : List Char}
    (h : (as.flatMap fun a => ',' :: write a) ++ close :: rest =
      (bs.flatMap fun b => ',' :: write b) ++ close :: rest') : as = bs ∧ rest = rest' := by
  induction as generalizing bs with
  | nil =>
    cases bs with
    | nil => exact ⟨rfl, (List.cons.inj h).2⟩
    | cons b bs => exact absurd (List.cons.inj h).1 hcomma
  | cons a as ih =>
    cases bs with
    | nil => exact absurd (List.cons.inj h).1 hcomma.symm
    | cons b bs =>
      rw [List.forall_mem_cons] at has hbs
      rw [List.flatMap_cons, List.flatMap_cons, List.cons_append, List.cons_append,
        List.append_assoc, List.append_assoc] at h
      rcases has.1 b hbs.1 _ _ (endsNumber_flatMap hclose as rest)
        (endsNumber_flatMap hclose bs rest') (List.cons.inj h).2 with ⟨rfl, hmore⟩
      rcases ih has.2 hbs.2 hmore with ⟨rfl, hrest⟩
      exact ⟨rfl, hrest⟩

/-- Texts between commas are told apart, up to a mark with which none of them begins. -/
theorem listed_append_inj (hcomma : close ≠ ',') (hclose : inNumber close = false)
    {as bs : List α} (has : ∀ a ∈ as, EndsBy write may a) (hbs : ∀ b ∈ bs, may b)
    (hheadA : ∀ a ∈ as, ∃ c more, write a = c :: more ∧ c ≠ close)
    (hheadB : ∀ b ∈ bs, ∃ c more, write b = c :: more ∧ c ≠ close) {rest rest' : List Char}
    (h : listed write as ++ close :: rest = listed write bs ++ close :: rest') :
    as = bs ∧ rest = rest' := by
  cases as with
  | nil =>
    cases bs with
    | nil => exact ⟨rfl, (List.cons.inj h).2⟩
    | cons b bs =>
      -- one list is closed where the other one begins its first text
      rcases hheadB b List.mem_cons_self with ⟨c, more, hwrite, hne⟩
      simp only [listed, hwrite, List.cons_append, List.nil_append] at h
      exact absurd (List.cons.inj h).1.symm hne
  | cons a as =>
    cases bs with
    | nil =>
      rcases hheadA a List.mem_cons_self with ⟨c, more, hwrite, hne⟩
      simp only [listed, hwrite, List.cons_append, List.nil_append] at h
      exact absurd (List.cons.inj h).1 hne
    | cons b bs =>
      rw [List.forall_mem_cons] at has hbs
      rw [listed, listed, List.append_assoc, List.append_assoc] at h
      rcases has.1 b hbs.1 _ _ (endsNumber_flatMap hclose as rest)
        (endsNumber_flatMap hclose bs rest') h with ⟨rfl, hmore⟩
      rcases flatMap_append_inj hcomma hclose has.2 hbs.2 hmore with ⟨rfl, hrest⟩
      exact ⟨rfl, hrest⟩

end Listed

/-! ## Values -/

/-- A value that is made of texts, numbers without a sign, lists and records. -/
inductive Written : Json → Prop
  | string (s : String) : Written (.string s)
  | integer (n : Nat) : Written (.integer n)
  | array {items : List Json} (h : ∀ j ∈ items, Written j) : Written (.array items)
  | object {members : List (String × Json)} (h : ∀ m ∈ members, Written m.2) :
      Written (.object members)

def compactMember (m : String × Json) : List Char :=
  literal m.1 ++ ':' :: m.2.compact

theorem compact_array (items : List Json) :
    (Json.array items).compact = '[' :: listed compact items ++ [']'] := by
  cases items with
  | nil => rfl
  | cons j rest => simp [compact, listed, compactItems_eq]

theorem compact_object (members : List (String × Json)) :
    (Json.object members).compact = '\x7b' :: listed compactMember members ++ ['\x7d'] := by
  cases members with
  | nil => rfl
  | cons m rest => simp [compact, listed, compactMember, compactMembers_eq]

/-- What kind of value begins with the character. -/
def kindOf (c : Char) : Nat :=
  if c = '"' then 0 else if c.isDigit then 1 else if c = '[' then 2 else if c = '\x7b' then 3 else 4

def kind : Json → Nat
  | .string _ => 0
  | .integer _ => 1
  | .array _ => 2
  | .object _ => 3
  | _ => 4

namespace Written

variable {j j' : Json}

theorem exists_cons (h : Written j) :
    ∃ c more, j.compact = c :: more ∧ kindOf c = j.kind ∧ j.kind < 4 := by
  cases h with
  | string s => exact ⟨'"', _, rfl, rfl, by simp [kind]⟩
  | integer n =>
    have htext : (Json.integer n).compact = Nat.toDigits 10 n := Nat.toList_repr
    rcases List.exists_cons_of_ne_nil (Nat.toDigits_ne_nil (n := n) (b := 10)) with
      ⟨c, digits, hdigits⟩
    have hdigit : c.isDigit := isDigit_toDigits c (by rw [hdigits]; exact List.mem_cons_self)
    have hquote : c ≠ '"' := by
      rintro rfl
      cases hdigit
    exact ⟨c, digits, htext.trans hdigits, by simp [kindOf, kind, hquote, hdigit], by simp [kind]⟩
  | array _ => exact ⟨'[', _, compact_array _, rfl, by simp [kind]⟩
  | object _ => exact ⟨'\x7b', _, compact_object _, rfl, by simp [kind]⟩

/-- Texts that begin in the same way are those of values of one kind. -/
theorem kind_eq (h : Written j) (h' : Written j') {rest rest' : List Char}
    (heq : j.compact ++ rest = j'.compact ++ rest') : j.kind = j'.kind := by
  rcases h.exists_cons with ⟨c, more, hcompact, hkind, -⟩
  rcases h'.exists_cons with ⟨c', more', hcompact', hkind', -⟩
  rw [hcompact, hcompact', List.cons_append, List.cons_append] at heq
  rw [← hkind, ← hkind', (List.cons.inj heq).1]

/-- Of two texts that begin alike, both values are the same, and so is what comes behind them. -/
theorem compact_append_inj (h : Written j) : EndsBy compact Written j := by
  -- the first character tells the kind, so the other value is made by the same constructor
  induction h with
  | string s =>
    intro j' h' rest rest' _ _ heq
    have hkind := (Written.string s).kind_eq h' heq
    cases h' with
    | string s' =>
      rcases literal_append_inj heq with ⟨rfl, hrest⟩
      exact ⟨rfl, hrest⟩
    | _ => cases hkind
  | integer n =>
    intro j' h' rest rest' hrest hrest' heq
    have hkind := (Written.integer n).kind_eq h' heq
    cases h' with
    | integer n' =>
      have htext (k : Nat) : (Json.integer k).compact = Nat.toDigits 10 k := Nat.toList_repr
      rw [htext, htext] at heq
      rcases toDigits_append_inj hrest hrest' heq with ⟨rfl, hrest⟩
      exact ⟨rfl, hrest⟩
    | _ => cases hkind
  | @array items h ih =>
    intro j' h' rest rest' _ _ heq
    have hkind := (Written.array h).kind_eq h' heq
    cases h' with
    | @array items' h' =>
      -- no item begins with the bracket that closes the list
      have hhead (items : List Json) (h : ∀ j ∈ items, Written j) :
          ∀ j ∈ items, ∃ c more, j.compact = c :: more ∧ c ≠ ']' := by
        intro j hj
        rcases (h j hj).exists_cons with ⟨c, more, hcompact, hkind, hlt⟩
        refine ⟨c, more, hcompact, ?_⟩
        rintro rfl
        rw [← hkind] at hlt
        exact absurd hlt (by decide)
      rw [compact_array, compact_array] at heq
      have hlist : listed compact items ++ ']' :: rest = listed compact items' ++ ']' :: rest' := by
        simpa using heq
      rcases listed_append_inj (by decide) rfl ih h' (hhead items h) (hhead items' h') hlist with
        ⟨rfl, hrest⟩
      exact ⟨rfl, hrest⟩
    | _ => cases hkind
  | @object members h ih =>
    intro j' h' rest rest' _ _ heq
    have hkind := (Written.object h).kind_eq h' heq
    cases h' with
    | @object members' h' =>
      have hhead (members : List (String × Json)) :
          ∀ m ∈ members, ∃ c more, compactMember m = c :: more ∧ c ≠ '\x7d' := by
        intro m _
        exact ⟨'"', _, rfl, by decide⟩
      -- a member is a key, which is a literal, and then a value, which ends by hypothesis
      have hends : ∀ m ∈ members, EndsBy compactMember (fun m => Written m.2) m := by
        intro m hm m' hm' rest rest' hrest hrest' heq
        rw [compactMember, compactMember, List.append_assoc, List.append_assoc] at heq
        rcases literal_append_inj heq with ⟨hkey, hvalue⟩
        rcases ih m hm m'.2 hm' rest rest' hrest hrest' (List.cons.inj hvalue).2 with
          ⟨hvalues, hrests⟩
        exact ⟨Prod.ext hkey hvalues, hrests⟩
      rw [compact_object, compact_object] at heq
      have hlist : listed compactMember members ++ '\x7d' :: rest =
          listed compactMember members' ++ '\x7d' :: rest' := by
        simpa using heq
      rcases listed_append_inj (by decide) rfl hends h' (hhead members) (hhead members') hlist with
        ⟨rfl, hrest⟩
      exact ⟨rfl, hrest⟩
    | _ => cases hkind

/-- Different values have different texts. -/
theorem render_inj (h : Written j) (h' : Written j')
    (heq : j.render .compact = j'.render .compact) : j = j' := by
  have htext : j.compact ++ [] = j'.compact ++ [] := by
    rw [String.ofList_inj.1 heq]
  exact (h.compact_append_inj j' h' [] [] .nil .nil htext).1

end Written

end Json
end TicMeter
