import FramePipeline.Proofs.Config.Loading
import FramePipeline.Proofs.Config.Magnitudes

/-!
# Integers in files and variables

An integer may be written as the text of a variable, as a TOML integer, as a JSON numeral, or as a text in a
file. On its way to a setting it may become a number of the format `binary64`, if it does not fit into 64 bits
with a sign. All that is lost then are digits: such a number is far beyond every word of 32 bits. So from an
integer that is not below the range of 64 bits no other word of 32 bits is ever made.

Main definitions: `Json.Numeral.IsInteger`, `Value.IntegerNotation` (a value as which an integer is given),
`Value.IntegerValue` (what is left of it). Main statements: `Environment.valueOf_of_readInteger`,
`Toml.decimal_of_integer`, `Json.Numeral.value?_cases`, `Value.IntegerNotation.eq_of_toWord32`.
-/

namespace FramePipeline

/-! ## Ranges -/

theorem Word.isSigned_iff {n : Int} :
    isSigned n = true ↔ -0x8000000000000000 ≤ n ∧ n < 0x8000000000000000 := by
  simp only [isSigned, Bool.and_eq_true, decide_eq_true_eq]
  rfl

/-! ## Digits -/

namespace Decimal

/-- A digit stands for itself in lower case, and is small. -/
theorem lower_of_isDigit {c : Char} (digit : isDigit c = true) :
    c ≠ 'Σ' ∧ Text.lowerChar c = [c] ∧ c.toLower = c ∧ c.toNat - 48 ≤ 9 := by
  have code : c = Char.ofNat c.toNat := (Char.ofNat_toNat c).symm
  simp only [isDigit, Bool.and_eq_true, decide_eq_true_eq] at digit
  have first : 48 ≤ c.toNat := digit.1
  have last : c.toNat ≤ 57 := digit.2
  rw [code]
  generalize c.toNat = n at first last
  interval_cases n <;> decide

/-- A large integer is a large number, or the negative of one. -/
theorem atLeast_toBinary64 (negative : Bool) {n : Nat} (le : 2 * UInt32.size ≤ n) :
    (toBinary64 ⟨negative, n, 0⟩).isNegative = negative ∧
      (toBinary64 ⟨negative, n, 0⟩).AtLeast (UInt32.size * Binary64.one) := by
  have pos : n ≠ 0 := by
    unfold UInt32.size at le
    omega
  unfold toBinary64
  simp only [if_neg pos, Int.add_zero]
  split
  · exact ⟨rfl, True.intro⟩
  · have counts : ¬ (length n : Int) < -400 := by omega
    rw [if_neg counts, if_pos (Int.le_refl 0)]
    refine ⟨Binary64.isNegative_nearest .., Binary64.atLeast_nearest negative ?_⟩
    have same : n * Nat.pow 10 (Int.toNat 0) = n := Nat.mul_one n
    rw [same, Nat.div_one, ← Nat.mul_assoc]
    exact Nat.mul_le_mul_right _ le

end Decimal

/-! ## Texts of integers -/

/-- A text that reads as an integer is an optional sign and digits. -/
theorem readInteger?_eq_some_iff {text : String} {n : Int} :
    readInteger? text = some n ↔ ∃ negative body, Decimal.splitSign text.toList = (negative, body) ∧
      body ≠ [] ∧ (∀ c ∈ body, Decimal.isDigit c = true) ∧
      n = if negative then -(Decimal.digitsValue body : Int) else Decimal.digitsValue body := by
  unfold readInteger?
  generalize Decimal.splitSign text.toList = parts
  obtain ⟨negative, body⟩ := parts
  constructor
  · intro reads
    dsimp only at reads
    split at reads
    · cases reads
    · next digits =>
      simp only [Bool.or_eq_true, List.isEmpty_iff, Bool.not_eq_true', not_or, Bool.not_eq_false,
        List.all_eq_true] at digits
      exact ⟨negative, body, rfl, digits.1, digits.2, (Option.some.inj reads).symm⟩
  · rintro ⟨_, _, split, some, digits, rfl⟩
    obtain ⟨rfl, rfl⟩ := Prod.mk.inj split
    have reads : ¬ (body.isEmpty || !body.all Decimal.isDigit) = true := by
      simpa [some] using digits
    exact if_neg reads

namespace Decimal

/-- A text has no sign, a plus or a minus in front. -/
theorem splitSign_cases (cs : List Char) :
    splitSign cs = (false, cs) ∨ (∃ body, cs = '+' :: body ∧ splitSign cs = (false, body)) ∨
      ∃ body, cs = '-' :: body ∧ splitSign cs = (true, body) := by
  unfold splitSign
  split
  · next body => exact .inr (.inl ⟨body, rfl, rfl⟩)
  · next body => exact .inr (.inr ⟨body, rfl, rfl⟩)
  · exact .inl rfl

/-- The decimal text of a number reads as the number. -/
theorem toDigits_spec (n : Nat) : Nat.toDigits 10 n ≠ [] ∧ (∀ c ∈ Nat.toDigits 10 n, isDigit c = true) ∧
    digitsValue (Nat.toDigits 10 n) = n := by
  refine ⟨Nat.toDigits_ne_nil, fun c mem => ?_, Nat.ofDigitChars_toDigits (by decide) (by decide)⟩
  exact Nat.isDigit_of_mem_toDigits (by decide) (by decide) mem

/-- Digits have no sign in front. -/
theorem splitSign_of_digits {cs : List Char} (digits : ∀ c ∈ cs, isDigit c = true) :
    splitSign cs = (false, cs) := by
  unfold splitSign
  split
  · exact absurd (digits '+' (List.mem_cons_self ..)) (by decide)
  · exact absurd (digits '-' (List.mem_cons_self ..)) (by decide)
  · rfl

end Decimal

/-- Integers read as they are written. -/
theorem readInteger?_toString (n : Int) : readInteger? (toString n) = some n := by
  refine readInteger?_eq_some_iff.mpr ?_
  rw [Int.toString_eq_repr, Int.repr_eq_if]
  split
  · next nonneg =>
    obtain ⟨some, digits, value⟩ := Decimal.toDigits_spec n.toNat
    refine ⟨false, _, ?_, some, digits, ?_⟩
    · rw [Nat.toList_repr]
      exact Decimal.splitSign_of_digits digits
    · simp only [Bool.false_eq_true, if_false, value]
      omega
  · next negative =>
    obtain ⟨some, digits, value⟩ := Decimal.toDigits_spec (-n).toNat
    refine ⟨true, _, ?_, some, digits, ?_⟩
    · rw [String.toList_append, Nat.toList_repr]
      rfl
    · simp only [if_true, value]
      omega

/-- Such a text is its own lower case. -/
theorem lowercase_of_readInteger {text : String} {n : Int} (reads : readInteger? text = some n) :
    Text.lowercase text = text := by
  obtain ⟨negative, body, split, -, digits, -⟩ := readInteger?_eq_some_iff.mp reads
  have ofDigit : ∀ c ∈ body, c ≠ 'Σ' ∧ Text.lowerChar c = [c] := fun c mem =>
    ⟨(Decimal.lower_of_isDigit (digits c mem)).1, (Decimal.lower_of_isDigit (digits c mem)).2.1⟩
  have fixed : ∀ c ∈ text.toList, c ≠ 'Σ' ∧ Text.lowerChar c = [c] := by
    rcases Decimal.splitSign_cases text.toList with eq | ⟨body', chars, eq⟩ | ⟨body', chars, eq⟩
    · obtain ⟨-, rfl⟩ := Prod.mk.inj (eq.symm.trans split)
      exact ofDigit
    all_goals
      obtain ⟨-, rfl⟩ := Prod.mk.inj (eq.symm.trans split)
      rw [chars]
      exact List.forall_mem_cons.mpr ⟨by decide, ofDigit⟩
  rw [Text.lowercase, Text.lowerFrom_eq_self fixed, String.ofList_toList]

/-- As a number such a text is the number nearest to the integer. -/
theorem readNumeral?_of_readInteger {text : String} {n : Int} (reads : readInteger? text = some n) :
    ∃ negative, (n = if negative then -(n.natAbs : Int) else n.natAbs) ∧
      readNumeral? text = some (Decimal.toBinary64 ⟨negative, n.natAbs, 0⟩) := by
  obtain ⟨negative, body, split, some, digits, rfl⟩ := readInteger?_eq_some_iff.mp reads
  have whole : body.takeWhile Decimal.isDigit = body := List.takeWhile_eq_self_iff.mpr digits
  have rest : body.dropWhile Decimal.isDigit = [] := List.dropWhile_eq_nil_iff.mpr digits
  have lower : body.map Char.toLower = body := by
    refine (List.map_congr_left fun c mem => ?_).trans (List.map_id body)
    exact (Decimal.lower_of_isDigit (digits c mem)).2.2.1
  -- no word is made of digits
  have apart : ∀ word : String, word.toList.all Decimal.isDigit = false → String.ofList body ≠ word := by
    rintro word letters rfl
    rw [String.toList_ofList, List.all_eq_true.mpr digits] at letters
    cases letters
  have read : Decimal.read? negative body = Option.some ⟨negative, Decimal.digitsValue body, 0⟩ := by
    simp only [Decimal.read?, whole, rest]
    simp [some, Decimal.readExponent?]
  have magnitude : (if negative then -(Decimal.digitsValue body : Int) else Decimal.digitsValue body).natAbs =
      Decimal.digitsValue body := by
    split <;> omega
  refine ⟨negative, by rw [magnitude], ?_⟩
  rw [magnitude]
  unfold readNumeral?
  simp only [split, lower, apart "inf" (by decide), apart "infinity" (by decide), apart "nan" (by decide),
    read]
  rfl

/-- **Integers in variables.** A text that reads as an integer of 64 bits stands for the integer; if it reads
as another integer, it stands for a number of the same sign that is beyond all words of 32 bits. -/
theorem Environment.valueOf_of_readInteger {text : String} {n : Int} (reads : readInteger? text = some n) :
    (Word.isSigned n = true ∧ valueOf text = .int n) ∨
      (Word.isSigned n = false ∧ ∃ x, valueOf text = .real x ∧ x.isNegative = decide (n < 0) ∧
        x.AtLeast (UInt32.size * Binary64.one)) := by
  have lower := lowercase_of_readInteger reads
  have apart : ∀ word : String, readInteger? word = none → text ≠ word := by
    rintro word nothing rfl
    rw [nothing] at reads
    cases reads
  unfold valueOf
  simp only [lower, apart "true" (by decide), apart "false" (by decide), if_false, reads]
  by_cases signed : Word.isSigned n = true
  · exact .inl ⟨signed, if_pos signed⟩
  · obtain ⟨negative, sign, number⟩ := readNumeral?_of_readInteger reads
    have beyond : 2 * UInt32.size ≤ n.natAbs ∧ 0 < n.natAbs := by
      rw [Word.isSigned_iff] at signed
      unfold UInt32.size
      omega
    obtain ⟨signs, reaches⟩ := Decimal.atLeast_toBinary64 negative beyond.1
    refine .inr ⟨by simpa using signed, _, ?_, ?_, reaches⟩
    · rw [if_neg signed, valueOf.number, number]
    · rw [signs]
      cases negative
      · simp only [Bool.false_eq_true, if_false] at sign
        have nonneg : 0 ≤ n := by
          rw [sign]
          exact Int.natCast_nonneg _
        exact (decide_eq_false (by omega)).symm
      · simp only [if_true] at sign
        have below : n < 0 := by
          rw [sign]
          exact Int.neg_neg_of_pos (Int.natCast_pos.mpr beyond.2)
        exact (decide_eq_true below).symm

/-! ## TOML integers -/

namespace Text.Scanner

variable {α β : Type}

/-- What is read, and what is left. -/
def run? (p : Scanner α) (s : List Char) : Option (α × List Char) :=
  (p s).map (·.1)

theorem run?_bind (p : Scanner α) (f : α → Scanner β) (s : List Char) :
    run? (p >>= f) s = (run? p s).bind fun x => run? (f x.1) x.2 := by
  show (andThen p f s).map (·.1) = _
  unfold andThen run?
  cases p s with
  | none => rfl
  | some found =>
    obtain ⟨⟨a, r⟩, le⟩ := found
    simp only [Option.map_some, Option.bind_some]
    cases f a r <;> rfl

theorem run?_give (a : α) (s : List Char) : run? (give a) s = some (a, s) :=
  rfl

theorem run?_fail (s : List Char) : run? (fail : Scanner α) s = none :=
  rfl

theorem run?_peek (s : List Char) : run? peek s = some (s.head?, s) :=
  rfl

theorem run?_next (c : Char) (s : List Char) : run? next (c :: s) = some (c, s) :=
  rfl

theorem run?_ite (p : Prop) [Decidable p] (q r : Scanner α) (s : List Char) :
    run? (if p then q else r) s = if p then run? q s else run? r s := by
  split <;> rfl

theorem parse?_eq_some {p : Scanner α} {s : List Char} {a : α} (parsed : p.parse? s = some a) :
    run? p s = some (a, []) := by
  unfold parse? at parsed
  unfold run?
  split at parsed
  · next found =>
    obtain rfl := Option.some.inj parsed
    rw [found]
    rfl
  · cases parsed

/-- Items of one character each are read to the end. -/
theorem run?_many {starts : Char → Bool} {item : Char → Scanner Char} {s : List Char}
    (begins : ∀ c ∈ s, starts c = true) (items : ∀ c ∈ s, ∀ r, run? (item c) r = some (c, r)) :
    run? (many starts item) s = some (s, []) := by
  -- the characters read before are kept in reverse
  suffices general : ∀ acc, run? (manyFrom (fun s => !s.head?.any starts) item acc) s =
      some (acc.reverse ++ s, []) from general []
  induction s with
  | nil =>
    intro acc
    simp [run?, manyFrom]
  | cons c t ih =>
    intro acc
    have more := ih (fun d mem => begins d (List.mem_cons_of_mem _ mem))
      (fun d mem => items d (List.mem_cons_of_mem _ mem)) (c :: acc)
    have first := items c (List.mem_cons_self ..) t
    obtain ⟨⟨⟨_, _⟩, le⟩, read, is⟩ := Option.map_eq_some_iff.mp first
    obtain ⟨rfl, rfl⟩ := Prod.mk.inj is
    obtain ⟨⟨⟨_, _⟩, le'⟩, read', is'⟩ := Option.map_eq_some_iff.mp more
    obtain ⟨rfl, rfl⟩ := Prod.mk.inj is'
    rw [run?, manyFrom]
    simp [begins _ (List.mem_cons_self ..), read, read']

end Text.Scanner

namespace Toml

open FramePipeline.Text

variable {token : String} {n : Int} {t : Toml}

theorem run?_moreDigits {ds : List Char} (digits : ∀ c ∈ ds, Decimal.isDigit c = true) :
    (moreDigits Decimal.isDigit).run? ds = some (ds, []) := by
  refine Scanner.run?_many (fun c mem => by simp [digits c mem]) fun c mem r => ?_
  have plain : c ≠ '_' := by
    rintro rfl
    exact absurd (digits _ mem) (by decide)
  rw [if_neg plain, Scanner.run?_give]

theorem run?_sign (c : Char) (cs : List Char) : sign.run? (c :: cs) = some (Decimal.splitSign (c :: cs)) := by
  have peeks : sign.run? (c :: cs) =
      (do
        if c = '+' || c = '-' then Scanner.skip 1
        Scanner.give (c = '-') : Scanner Bool).run? (c :: cs) := by
    rw [sign, Scanner.run?_bind, Scanner.run?_peek]
    rfl
  rw [peeks]
  rcases Decimal.splitSign_cases (c :: cs) with eq | ⟨body, chars, eq⟩ | ⟨body, chars, eq⟩
  · have plain : c ≠ '+' ∧ c ≠ '-' := by
      constructor <;> rintro rfl <;> simp [Decimal.splitSign] at eq
    rw [eq]
    simp [plain, Scanner.run?_give]
  · obtain ⟨rfl, rfl⟩ := List.cons.inj chars
    rw [eq]
    rfl
  · obtain ⟨rfl, rfl⟩ := List.cons.inj chars
    rw [eq]
    rfl

/-- All digits are read, or there is a zero in front and digits are left. -/
theorem run?_decimalDigits {d : Char} {ds : List Char} (digits : ∀ c ∈ d :: ds, Decimal.isDigit c = true) :
    ∃ whole rest, decimalDigits.run? (d :: ds) = some (whole, rest) ∧
      (∀ c ∈ rest, Decimal.isDigit c = true) ∧ (rest = [] → whole = d :: ds) := by
  obtain ⟨first, others⟩ := List.forall_mem_cons.mp digits
  by_cases zero : d = '0'
  · refine ⟨[d], ds, ?_, others, fun none => by rw [none]⟩
    rw [decimalDigits, Scanner.run?_bind, Scanner.run?_next, Option.bind_some, if_pos zero, Scanner.run?_give]
  · refine ⟨d :: ds, [], ?_, List.forall_mem_nil _, fun _ => rfl⟩
    rw [decimalDigits, Scanner.run?_bind, Scanner.run?_next, Option.bind_some, if_neg zero, if_pos first,
      Scanner.run?_bind, run?_moreDigits others, Option.bind_some, Scanner.run?_give]

theorem run?_integer (i : Int) (s : List Char) :
    (integer i).run? s = if Word.isSigned i = true then some (.int i, s) else none := by
  rw [integer, Scanner.run?_ite, Scanner.run?_give, Scanner.run?_fail]

/-- **Integers in TOML.** A decimal integer is read as itself, if it fits into 64 bits with a sign, and not at
all otherwise. -/
theorem decimal_of_integer (reads : readInteger? token = some n)
    (value : decimal.parse? token.toList = some t) :
    t = .int n ∧ Word.isSigned n = true := by
  obtain ⟨negative, body, split, some, digits, rfl⟩ := readInteger?_eq_some_iff.mp reads
  have result := Scanner.parse?_eq_some value
  cases chars : token.toList with
  | nil =>
    rw [chars] at split
    exact absurd (Prod.mk.inj split).2.symm some
  | cons c cs =>
    rw [chars] at split result
    rw [decimal, Scanner.run?_bind, run?_sign, split, Option.bind_some] at result
    cases body with
    | nil => exact absurd rfl some
    | cons d ds =>
      obtain ⟨whole, rest, read, left, complete⟩ := run?_decimalDigits digits
      -- what is left begins with a digit, if there is something, so neither fraction nor exponent follows
      have other : ∀ c, Decimal.isDigit c = false → rest.head? ≠ Option.some c := by
        intro c differs head
        rw [left c (List.mem_of_head? head)] at differs
        cases differs
      rw [Scanner.run?_bind, read, Option.bind_some, Scanner.run?_bind, Scanner.run?_peek, Option.bind_some,
        if_neg (by simp [other '.' (by decide), other 'e' (by decide), other 'E' (by decide)]),
        run?_integer] at result
      obtain ⟨signed, result⟩ := Option.ite_none_right_eq_some.mp result
      obtain ⟨rfl, nothing⟩ := Prod.mk.inj (Option.some.inj result)
      obtain rfl := complete nothing
      exact ⟨rfl, signed⟩

end Toml

/-! ## JSON numerals -/

namespace Json

/-- After a run of digits that stands for `value` the word holds all of it, or its leading digits, as many as
fit. -/
def Collected.DigitsInv (c : Collected) (value : Nat) : Prop :=
  (c.left = 0 ∧ c.word = value ∧ value < Word.limit) ∨
    (c.left ≠ 0 ∧ Word.limit ≤ value ∧ Word.limit ≤ 10 * c.word + 9)

theorem Collected.DigitsInv.add {c : Collected} {value : Nat} {d : Char} (h : c.DigitsInv value)
    (digit : Decimal.isDigit d = true) : (c.add d).DigitsInv (10 * value + (d.toNat - 48)) := by
  have small := (Decimal.lower_of_isDigit digit).2.2.2
  rcases h with ⟨all, rfl, fits⟩ | ⟨some, beyond, leading⟩
  · by_cases fits' : 10 * c.word + (d.toNat - 48) < Word.limit
    · refine .inl ?_
      simp [Collected.add, all, fits']
    · refine .inr ?_
      simp only [Collected.add, all, fits', decide_true, decide_false, Bool.and_false, Bool.false_eq_true,
        if_false]
      omega
  · refine .inr ?_
    simp only [Collected.add, some, decide_false, Bool.false_and, Bool.false_eq_true, if_false]
    omega

theorem Collected.DigitsInv.addAll {ds : List Char} {c : Collected} {value : Nat} (h : c.DigitsInv value)
    (digits : ∀ d ∈ ds, Decimal.isDigit d = true) :
    (c.addAll ds).DigitsInv (ds.foldl (fun n d => 10 * n + (d.toNat - 48)) value) := by
  induction ds generalizing c value with
  | nil => exact h
  | cons d rest ih =>
    exact ih (h.add (digits d (List.mem_cons_self ..))) fun d' mem => digits d' (List.mem_cons_of_mem _ mem)

theorem Collected.digitsInv_digits {ds : List Char} (digits : ∀ d ∈ ds, Decimal.isDigit d = true) :
    ((Collected.mk 0 0).addAll ds).DigitsInv (Decimal.digitsValue ds) :=
  DigitsInv.addAll (.inl ⟨rfl, rfl, by decide⟩) digits

/-- The numeral has neither fraction nor exponent, and stands for an integer. -/
structure Numeral.IsInteger (m : Numeral) (n : Int) : Prop where
  fraction : m.fraction = none
  exponent : m.exponent = none
  digits : ∀ c ∈ m.whole, Decimal.isDigit c = true
  value : n = if m.negative then -(Decimal.digitsValue m.whole : Int) else Decimal.digitsValue m.whole

/-- Places behind the digits multiply. -/
theorem eq_mul_of_scaled {x y : Binary64} {places : Nat} (zero : x.isZero = false)
    (value : scaled x places = some y) : y = x.mul (Binary64.ofNat (Nat.pow 10 places)) := by
  unfold scaled at value
  rw [if_neg (by rw [zero]; exact Bool.false_ne_true)] at value
  split at value
  · cases value
  · rw [if_pos (Int.natCast_nonneg places), Int.toNat_natCast] at value
    generalize x.mul (Binary64.ofNat (Nat.pow 10 places)) = product at value
    split at value
    · cases value
    · exact (Option.some.inj value).symm

/-- A long integer is a large number. -/
theorem isLarge_of_scaled {word left : Nat} {x : Binary64} (leading : Word.limit ≤ 10 * word + 9)
    (pos : left ≠ 0) (value : scaled (Binary64.ofNat word) left = some x) : x.IsLarge := by
  have ofWord : (Binary64.ofNat word).AtLeast (2 * UInt32.size * Binary64.one) := by
    refine Binary64.atLeast_ofNat ?_
    rw [← Nat.mul_assoc]
    refine Nat.mul_le_mul_right _ ?_
    unfold Word.limit at leading
    unfold UInt32.size
    omega
  have power : 2 ≤ Nat.pow 10 left := by
    have one_le : 10 ^ 1 ≤ 10 ^ left := Nat.pow_le_pow_right (by decide) (Nat.pos_of_ne_zero pos)
    have same : Nat.pow 10 left = 10 ^ left := rfl
    omega
  have ofPower : (Binary64.ofNat (Nat.pow 10 left)).AtLeast Binary64.one :=
    Binary64.atLeast_ofNat (Nat.mul_le_mul_right _ power)
  have product : (Binary64.mul (Binary64.ofNat word) (Binary64.ofNat (Nat.pow 10 left))).IsLarge := by
    refine ⟨Binary64.isNegative_mul (Binary64.isNegative_ofNat _) (Binary64.isNegative_ofNat _), ?_⟩
    refine ofWord.mul ofPower (Nat.mul_pos (by decide) Binary64.one_pos) Binary64.one_pos ?_
    rw [Nat.mul_div_cancel _ Binary64.one_pos, Nat.mul_assoc]
  have zero := ofWord.isZero_eq (Nat.mul_pos (by decide) Binary64.one_pos)
  rw [eq_mul_of_scaled zero value]
  exact product

/-- **Integers in JSON.** A numeral of an integer that is not below the range of 64 bits stands for the
integer itself, if it fits into 64 bits with or without a sign; a negative zero is a number; and what is
larger stands for a number beyond all words of 32 bits. -/
theorem Numeral.value?_cases {m : Numeral} {n : Int} {j : Json} (is : m.IsInteger n)
    (value : m.value? = some j) (low : -0x8000000000000000 ≤ n) :
    (n < Word.limit ∧ j = .int n) ∨ (n = 0 ∧ j = .real (.finite true 0)) ∨
      (UInt32.size ≤ n ∧ ∃ x, j = .real x ∧ x.IsLarge) := by
  obtain ⟨fraction, exponent, digits, rfl⟩ := is
  have holds := Collected.digitsInv_digits digits
  unfold Numeral.value? at value
  simp only [fraction, exponent] at value
  generalize (Collected.mk 0 0).addAll m.whole = c at holds value
  generalize Decimal.digitsValue m.whole = v at holds low ⊢
  rcases holds with ⟨all, rfl, fits⟩ | ⟨some, beyond, leading⟩
  · simp only [all, if_true] at value
    cases sign : m.negative with
    | false =>
      simp only [sign, Bool.not_false, if_true] at value
      simp only [Bool.false_eq_true, if_false]
      exact .inl ⟨Int.ofNat_lt.mpr fits, (Option.some.inj value).symm⟩
    | true =>
      simp only [sign, if_true] at low
      have inRange : ¬ Word.signedLimit < c.word := by
        unfold Word.signedLimit
        omega
      by_cases zero : c.word = 0
      · have negated : (Binary64.ofNat 0).neg = .finite true 0 := by decide
        simp only [sign, zero, Bool.not_true, Bool.false_eq_true, if_false, decide_true, Bool.true_or,
          if_true, negated] at value
        exact .inr (.inl ⟨by simp [zero], (Option.some.inj value).symm⟩)
      · simp only [sign, zero, inRange, Bool.not_true, Bool.false_eq_true, if_false, decide_false,
          Bool.or_false] at value
        simp only [if_true]
        refine .inl ⟨?_, (Option.some.inj value).symm⟩
        omega
  · simp only [some, if_false] at value
    cases sign : m.negative with
    | false =>
      rw [Numeral.value?.sign, sign] at value
      obtain ⟨x, scaled, rfl⟩ := Option.map_eq_some_iff.mp value
      refine .inr (.inr ⟨?_, x, rfl, isLarge_of_scaled leading some scaled⟩)
      simp only [Bool.false_eq_true, if_false]
      unfold Word.limit at beyond
      unfold UInt32.size
      omega
    | true =>
      simp only [sign, if_true] at low
      unfold Word.limit at beyond
      omega

end Json

/-! ## Words from integers -/

namespace Value

variable {v : Value} {n : Int} {a : UInt32}

/-- The value is an integer, or what stands for it: a number if it is zero or beyond all words of 32 bits, or
a text that reads as the integer. -/
inductive IntegerValue (n : Int) : Value → Prop
  | int (origin : Option Origin) : IntegerValue n (.scalar origin (.int n))
  | zero (origin : Option Origin) (negative : Bool) (is : n = 0) :
      IntegerValue n (.scalar origin (.real (.finite negative 0)))
  | large (origin : Option Origin) {x : Binary64} (beyond : UInt32.size ≤ n) (is : x.IsLarge) :
      IntegerValue n (.scalar origin (.real x))
  | text (origin : Option Origin) {s : String} (reads : readInteger? s = some n) :
      IntegerValue n (.scalar origin (.text s))

/-- Such a value is no table, so it replaces what was there. -/
theorem IntegerValue.onto_eq (h : v.IntegerValue n) (old : Option Value) : v.onto old = v := by
  cases h <;> rfl

theorem toWord32_of_toWord {m : Nat} (word : v.toWord = .ok m) (ok : v.toWord32 = .ok a) :
    a.toNat = m := by
  simp only [toWord32, word, bind, Except.bind] at ok
  split at ok
  · next fits =>
    obtain rfl := Except.ok.inj ok
    exact UInt32.toNat_ofNat_of_lt' fits
  · cases ok

theorem toWord32_of_fault {fault : Fault} (failed : v.toWord = .error fault) : v.toWord32 = .error fault := by
  simp only [toWord32, failed, bind, Except.bind]

/-- A text that reads as an integer and as a word has no minus sign, and the word is the integer. -/
theorem readWord?_eq_some {s : String} {m : Nat} (reads : readInteger? s = some n)
    (word : toWord.readWord? s = some m) : (m : Int) = n := by
  unfold toWord.readWord? at word
  split at word
  · cases word
  · next unsigned =>
    simp only [reads] at word
    split at word
    · obtain rfl := Option.some.inj word
      obtain ⟨negative, body, sign, -, -, rfl⟩ := readInteger?_eq_some_iff.mp reads
      cases negative with
      | false =>
        simp only [Bool.false_eq_true, if_false]
        omega
      | true =>
        have minus : s.startsWith "-" = true := by
          rw [String.startsWith_string_iff]
          rcases Decimal.splitSign_cases s.toList with eq | ⟨body', -, eq⟩ | ⟨body', chars, -⟩
          · cases eq.symm.trans sign
          · cases eq.symm.trans sign
          · exact ⟨body', chars.symm⟩
        exact absurd minus unsigned
    · cases word

/-- An integer in range converts to itself. -/
theorem toWord32_int (origin : Option Origin) (nonneg : 0 ≤ n) (fits : n < UInt32.size) :
    (scalar origin (.int n)).toWord32 = .ok (UInt32.ofNat n.toNat) := by
  have small : n.toNat < UInt32.size := by omega
  simp only [toWord32, toWord, if_pos nonneg, bind, Except.bind, if_pos small]

/-- **Conversion of integers.** A value that carries an integer converts to no other word of 32 bits. -/
theorem IntegerValue.eq_of_toWord32 (h : v.IntegerValue n) (ok : v.toWord32 = .ok a) :
    (a.toNat : Int) = n := by
  cases h with
  | int origin =>
    by_cases nonneg : 0 ≤ n
    · have same := toWord32_of_toWord (by simp only [toWord, if_pos nonneg]; rfl) ok
      omega
    · rw [toWord32_of_fault (by simp only [toWord, if_neg nonneg]; rfl)] at ok
      cases ok
  | zero origin negative is =>
    have same := toWord32_of_toWord (m := 0) (by simp only [toWord, Binary64.toWord_zero]) ok
    omega
  | @large origin x beyond is =>
    -- no word of 32 bits is as large as the word of 64 bits that is made of the number
    have same := toWord32_of_toWord rfl ok
    have larger := is.le_toWord
    have bound := a.toNat_lt_size
    omega
  | @text origin s reads =>
    have lower := lowercase_of_readInteger reads
    have apart : ∀ words : List String, words.all (fun word => readInteger? word = none) → s ∉ words := by
      intro words none mem
      have nothing := List.all_eq_true.mp none s mem
      simp [reads] at nothing
    have switchedOn := apart ["true", "on", "yes"] (by decide)
    have switchedOff := apart ["false", "off", "no"] (by decide)
    cases read : toWord.readWord? s with
    | none =>
      have failed : (scalar origin (.text s)).toWord =
          .error ((scalar origin (.text s)).wrongType "an integer") := by
        simp only [toWord, lower, switchedOn, switchedOff, if_false, read]
      rw [toWord32_of_fault failed] at ok
      cases ok
    | some m =>
      have word : (scalar origin (.text s)).toWord = .ok m := by
        simp only [toWord, lower, switchedOn, switchedOff, if_false, read]
      have same := toWord32_of_toWord word ok
      have nonneg := readWord?_eq_some reads read
      omega

/-- A value as which an integer is given: the text of a variable, an integer of a TOML file, a numeral of a
JSON file, or a text in either. In variables and in JSON the integer is not below the range of 64 bits. -/
inductive IntegerNotation (n : Int) : Value → Prop
  | environment {text : String} (reads : readInteger? text = some n) (low : -0x8000000000000000 ≤ n) :
      IntegerNotation n (Environment.given text)
  | toml (origin : Origin) : IntegerNotation n (ConfigFile.ofToml origin (.int n))
  | json (origin : Origin) {m : Json.Numeral} {j : Json} (is : m.IsInteger n) (value : m.value? = some j)
      (low : -0x8000000000000000 ≤ n) : IntegerNotation n (ConfigFile.ofJson origin j)
  | text (origin : Origin) {s : String} (reads : readInteger? s = some n) :
      IntegerNotation n (.scalar origin (.text s))

theorem IntegerNotation.integerValue (h : v.IntegerNotation n) : v.IntegerValue n := by
  cases h with
  | @environment text reads low =>
    rw [Environment.given]
    rcases Environment.valueOf_of_readInteger reads with ⟨-, value⟩ | ⟨unsigned, x, value, sign, reaches⟩
    · rw [value]
      exact .int _
    · have beyond : ¬ n < 0x8000000000000000 := fun fits => by
        rw [Word.isSigned_iff.mpr ⟨low, fits⟩] at unsigned
        cases unsigned
      rw [value]
      refine .large _ ?_ ⟨?_, reaches⟩
      · unfold UInt32.size
        omega
      · rw [sign]
        exact decide_eq_false (by omega)
  | toml origin =>
    rw [ConfigFile.ofToml]
    exact .int _
  | @json origin m j is value low =>
    rcases Json.Numeral.value?_cases is value low with ⟨word, rfl⟩ | ⟨zero, rfl⟩ | ⟨beyond, x, rfl, large⟩
    · rw [ConfigFile.ofJson]
      split
      · exact .int _
      · next high =>
        have least : UInt32.size ≤ n ∧ 2 * UInt32.size ≤ n.toNat := by
          unfold Word.signedLimit at high
          unfold UInt32.size
          omega
        exact .large _ least.1 (Binary64.isLarge_ofNat least.2)
    · rw [ConfigFile.ofJson]
      exact .zero _ true zero
    · rw [ConfigFile.ofJson]
      exact .large _ beyond large
  | text origin reads => exact .text _ reads

/-- **Integers are kept.** An integer converts to no word of 32 bits but itself, in whatever form it is
given. -/
theorem IntegerNotation.eq_of_toWord32 (h : v.IntegerNotation n) (ok : v.toWord32 = .ok a) :
    (a.toNat : Int) = n :=
  h.integerValue.eq_of_toWord32 ok

end Value

end FramePipeline
