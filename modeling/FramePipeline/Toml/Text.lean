import FramePipeline.Text.Hex
import FramePipeline.Text.Scanner

/-!
# Characters, comments and strings of TOML

The lexical part of TOML 1.0: blanks, newlines, comments, and the four kinds of strings. A newline in
a multi-line string is a line feed whichever way the document writes it; a newline straight after the
opening quotes is dropped; up to two quotes may stand before the closing ones.

Main definitions: `Toml.basicString`, `Toml.literalString`, `Toml.stringValue`.
-/

namespace FramePipeline.Toml

open FramePipeline.Text

/-! ## Blanks, newlines and comments -/

/-- Space or tab. -/
def isBlank (c : Char) : Bool :=
  c = ' ' || c = '\t'

/-- Takes spaces and tabs. -/
def blanks : Scanner Unit := do
  let _ ← Scanner.takeWhile isBlank

/-- The rest of a newline that begins with `c`: a carriage return needs a line feed behind it. -/
def newlineFrom (c : Char) : Scanner Unit :=
  if c = '\n' then Scanner.give ()
  else if c = '\r' then Scanner.char '\n'
  else Scanner.fail

/-- The first character of a newline. -/
def startsNewline (c : Char) : Bool :=
  c = '\n' || c = '\r'

/-- A character beyond ASCII. -/
def isBeyondAscii (c : Char) : Bool :=
  0x80 ≤ c.toNat

/-- A character of a comment: no control character but the tab. -/
def isCommentChar (c : Char) : Bool :=
  c = '\t' || (' ' ≤ c && c ≤ '~') || isBeyondAscii c

/-- A comment, if one comes next, up to the end of its line. -/
def comment? : Scanner Unit := do
  if (← Scanner.peek) = some '#' then
    let _ ← Scanner.takeWhile isCommentChar

/-- Blanks, newlines and whole-line comments between the items of an array. -/
def blankLines : Scanner Unit := do
  blanks
  let _ ← Scanner.many (fun c => startsNewline c || c = '#') fun c => do
    if c = '#' then
      let _ ← Scanner.takeWhile isCommentChar
      newlineFrom (← Scanner.next)
    else newlineFrom c
    blanks

/-! ## Escapes -/

/-- A number of exactly `n` hexadecimal digits that follow `value`. -/
def hexDigits (value : Nat) : (n : Nat) → Scanner Nat
  | 0 => Scanner.give value
  | n + 1 => do
    let d ← Scanner.ofOption (Hex.value? (← Scanner.next))
    hexDigits (16 * value + d) n

/-- The character with a code point that is a scalar value. -/
def scalar (n : Nat) : Scanner Char :=
  if n < 0xD800 || (0xDFFF < n && n < 0x110000) then Scanner.give (Char.ofNat n)
  else Scanner.fail

/-- What follows a backslash. -/
def escape : Scanner Char := do
  match ← Scanner.next with
  | 'b' => Scanner.give (Char.ofNat 8)
  | 't' => Scanner.give '\t'
  | 'n' => Scanner.give '\n'
  | 'f' => Scanner.give (Char.ofNat 12)
  | 'r' => Scanner.give '\r'
  | '"' => Scanner.give '"'
  | '\\' => Scanner.give '\\'
  | 'u' => scalar (← hexDigits 0 4)
  | 'U' => scalar (← hexDigits 0 8)
  | _ => Scanner.fail

/-! ## Strings on one line -/

/-- A character that stands for itself between double quotes. -/
def isBasicChar (c : Char) : Bool :=
  isBlank c || ('!' ≤ c && c ≤ '~' && c ≠ '"' && c ≠ '\\') || isBeyondAscii c

/-- A character that may stand between single quotes. -/
def isLiteralChar (c : Char) : Bool :=
  isBlank c || ('!' ≤ c && c ≤ '~' && c.toNat ≠ 0x27) || isBeyondAscii c

/-- The single quote. -/
def singleQuote : Char := Char.ofNat 0x27

/-- The rest of a string behind its opening double quote. -/
def basicString : Scanner String := do
  let pieces ← Scanner.many (· ≠ '"') fun c => do
    if c = '\\' then Scanner.give [← escape]
    else if isBasicChar c then Scanner.give (c :: (← Scanner.takeWhile isBasicChar))
    else Scanner.fail
  Scanner.char '"'
  Scanner.give (String.ofList pieces.flatten)

/-- The rest of a string behind its opening single quote. -/
def literalString : Scanner String := do
  let cs ← Scanner.takeWhile isLiteralChar
  Scanner.char singleQuote
  Scanner.give (String.ofList cs)

/-! ## Strings on many lines -/

/-- A newline, if one comes next. -/
def newline? : Scanner Unit := do
  match ← Scanner.peek with
  | some c =>
    if startsNewline c then
      Scanner.skip 1
      newlineFrom c
  | none => Scanner.give ()

/-- What follows a backslash in a string of many lines: an escape, or a newline that is dropped with
all blanks and newlines behind it. -/
def longEscape : Scanner (List Char) :=
  Scanner.orElse
    (do
      blanks
      newlineFrom (← Scanner.next)
      let _ ← Scanner.many (fun c => isBlank c || startsNewline c) fun c =>
        if isBlank c then Scanner.give () else newlineFrom c
      Scanner.give [])
    (do Scanner.give [← escape])

/-- The rest of a string of many lines behind its three opening quotes; `piece` reads a piece of its
content. Of a run of three or more quotes the last three close the string, and at most two come
before them. -/
def longString (quote : Char) (piece : Char → Scanner (List Char)) : Scanner String := do
  newline?
  let closing := List.replicate 3 quote
  let pieces ← Scanner.manyUntil closing.isPrefixOf fun c =>
    if c = quote then Scanner.give [c]
    else if startsNewline c then do
      newlineFrom c
      Scanner.give ['\n']
    else piece c
  Scanner.word closing
  let quotes ← Scanner.word? [quote]
  let more ← if quotes then Scanner.word? [quote] else Scanner.give false
  let kept := (if quotes then 1 else 0) + (if more then 1 else 0)
  Scanner.give (String.ofList (pieces.flatten ++ List.replicate kept quote))

/-- A string of many lines with escapes. -/
def longBasicString : Scanner String :=
  longString '"' fun c => do
    if c = '\\' then longEscape
    else if isBasicChar c then Scanner.give (c :: (← Scanner.takeWhile isBasicChar))
    else Scanner.fail

/-- A string of many lines without escapes. -/
def longLiteralString : Scanner String :=
  longString singleQuote fun c => do
    if isLiteralChar c then Scanner.give (c :: (← Scanner.takeWhile isLiteralChar))
    else Scanner.fail

/-- A string of any kind, from its opening quotes. -/
def stringValue : Scanner String := do
  if ← Scanner.word? ['"', '"', '"'] then longBasicString
  else if ← Scanner.word? ['"'] then basicString
  else if ← Scanner.word? [singleQuote, singleQuote, singleQuote] then longLiteralString
  else
    Scanner.char singleQuote
    literalString

end FramePipeline.Toml
