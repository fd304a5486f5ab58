/-!
# Scanners

A scanner reads a value from the front of a text and gives back what it left. The rest is never
longer than the text (`Scanner` carries the proof), so the only loop, `Scanner.manyUntil`, ends: each
round takes the character that starts an item and then whatever the item takes.

Main definitions: `Scanner`, `Scanner.manyUntil`, `Scanner.many`, `Scanner.parse?`.
-/

namespace FramePipeline.Text

/-- What a scanner found at the front of `s`, and the part of `s` it left. -/
abbrev Scanned (α : Type) (s : List Char) :=
  { found : α × List Char // found.2.length ≤ s.length }

/-- Reads a value from the front of a text, or refuses the text. -/
def Scanner (α : Type) : Type :=
  (s : List Char) → Option (Scanned α s)

namespace Scanner

variable {α β : Type}

/-! ## Single steps -/

/-- Reads nothing and gives `a`. -/
def give (a : α) : Scanner α :=
  fun s => some ⟨(a, s), Nat.le_refl _⟩

/-- Refuses every text. -/
def fail : Scanner α :=
  fun _ => none

/-- Reads with `p`, then goes on with what `f` makes of it. -/
def andThen (p : Scanner α) (f : α → Scanner β) : Scanner β :=
  fun s =>
    match p s with
    | none => none
    | some ⟨(a, r), h⟩ =>
      match f a r with
      | none => none
      | some ⟨(b, r'), h'⟩ => some ⟨(b, r'), Nat.le_trans h' h⟩

instance : Monad Scanner where
  pure := give
  bind := andThen

/-- A value that may be missing: when it is, the text is refused. -/
def ofOption : Option α → Scanner α
  | some a => give a
  | none => fail

/-- The next character, which stays in the text. -/
def peek : Scanner (Option Char) :=
  fun s => some ⟨(s.head?, s), Nat.le_refl _⟩

/-- Whether the text goes on with `word`, which stays in the text. -/
def ahead (word : List Char) : Scanner Bool :=
  fun s => some ⟨(word.isPrefixOf s, s), Nat.le_refl _⟩

/-- Whether nothing is left. -/
def atEnd : Scanner Bool :=
  fun s => some ⟨(s.isEmpty, s), Nat.le_refl _⟩

/-- Takes one character. -/
def next : Scanner Char
  | [] => none
  | c :: r => some ⟨(c, r), Nat.le_succ _⟩

/-- Takes up to `n` characters. -/
def skip (n : Nat) : Scanner Unit :=
  fun s => some ⟨((), s.drop n), by simp⟩

/-! ## Words and runs -/

/-- Takes the character `c`. -/
def char (c : Char) : Scanner Unit := do
  if (← next) = c then give () else fail

/-- Takes `word`, if the text goes on with it, and says whether it did. -/
def word? (word : List Char) : Scanner Bool := do
  if ← ahead word then
    skip word.length
    give true
  else
    give false

/-- Takes `word` or refuses the text. -/
def word (word : List Char) : Scanner Unit := do
  if ← word? word then give () else fail

theorem length_dropWhile_le (p : Char → Bool) (s : List Char) :
    (s.dropWhile p).length ≤ s.length := by
  induction s with
  | nil => simp
  | cons c r ih =>
    rw [List.dropWhile_cons]
    split
    · exact Nat.le_succ_of_le ih
    · exact Nat.le_refl _

/-- Takes the longest run of characters with the property `p`, which may be empty. -/
def takeWhile (p : Char → Bool) : Scanner (List Char) :=
  fun s => some ⟨(s.takeWhile p, s.dropWhile p), length_dropWhile_le p s⟩

/-- Takes the longest run of characters with the property `p`, which may not be empty. -/
def takeWhile1 (p : Char → Bool) : Scanner (List Char) := do
  match ← takeWhile p with
  | [] => fail
  | run => give run

/-! ## Choice and repetition -/

/-- Reads with `p`; where `p` refuses, reads with `q` from the same place. -/
def orElse (p q : Scanner α) : Scanner α :=
  fun s =>
    match p s with
    | some r => some r
    | none => q s

/-- Reads with `p` where it can and nothing elsewhere. -/
def optional (p : Scanner α) : Scanner (Option α) :=
  orElse (p.andThen fun a => give (some a)) (give none)

/-- The items read so far are `acc`, last first; goes on until the text ends or `stop` holds of
what is left. -/
def manyFrom (stop : List Char → Bool) (item : Char → Scanner α) (acc : List α) :
    Scanner (List α)
  | [] => some ⟨(acc.reverse, []), Nat.le_refl _⟩
  | c :: t =>
    if stop (c :: t) then some ⟨(acc.reverse, c :: t), Nat.le_refl _⟩
    else
      match item c t with
      | none => none
      | some ⟨(a, r), h⟩ =>
        match manyFrom stop item (a :: acc) r with
        | none => none
        | some ⟨(as, r'), h'⟩ => some ⟨(as, r'), Nat.le_trans h' (Nat.le_succ_of_le h)⟩
termination_by s => s.length
decreasing_by exact Nat.lt_succ_of_le h

/-- Reads items one after the other until the text ends or `stop` holds of what is left. The first
character of an item is handed to `item`, which reads on behind it. -/
def manyUntil (stop : List Char → Bool) (item : Char → Scanner α) : Scanner (List α) :=
  manyFrom stop item []

/-- Reads items one after the other, as long as the next character satisfies `starts`. -/
def many (starts : Char → Bool) (item : Char → Scanner α) : Scanner (List α) :=
  manyUntil (fun s => !s.head?.any starts) item

/-- The value of a text that is read to its end. -/
def parse? (p : Scanner α) (s : List Char) : Option α :=
  match p s with
  | some ⟨(a, []), _⟩ => some a
  | _ => none

end Scanner

end FramePipeline.Text
