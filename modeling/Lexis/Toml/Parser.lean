import Lexis.Text.Lines
import Lexis.Toml.Document
import Lexis.Toml.Scalar

/-!
# TOML — parser

The reading of a document: lines with a key and a value, or with the header of a section, and
comments.  A document that breaks a rule of TOML 1.0 anywhere has no reading at all, and the first
`Flaw` in it is the reason.

Values nest, up to `levelLimit`: each value knows at what level it stands.  A reader of values takes
fuel, which `parse` gives in proportion to the text, and each step of it reads a character or comes
closer to one.
-/

namespace Lexis.Toml

/-! ### Gaps -/

/-- The text behind blanks. -/
def skipBlanks (text : List Char) : List Char :=
  text.dropWhile isBlank

/-- The text behind the end of a line, with a comment in front of it or without. -/
def lineEnd (text : List Char) : Except Flaw (List Char) :=
  match skipBlanks text with
  | []        => .ok []
  | '\n' :: r => .ok r
  | '#' :: r  =>
    if (r.takeWhile (· ≠ '\n')).any isControl then .error .malformed
    else .ok (r.dropWhile (· ≠ '\n')).tail
  | _         => .error .malformed

/-- The text behind blanks, line feeds and comments. -/
def skipGap (inComment : Bool) : List Char → Except Flaw (List Char)
  | []     => .ok []
  | c :: r =>
    if inComment then
      if c = '\n' then skipGap false r
      else if isControl c then .error .malformed
      else skipGap true r
    else if isBlank c ∨ c = '\n' then skipGap false r
    else if c = '#' then skipGap true r
    else .ok (c :: r)

/-! ### Keys -/

/-- A character of a key without quotes. -/
def isBare (c : Char) : Bool :=
  isLetterOrDigit c || c = '-'

/-- One part of a key. -/
def keyPart (text : List Char) : Option (String × List Char) :=
  match text with
  | '"' :: r  => (basicString r).map fun read => (String.ofList read.1, read.2)
  | '\'' :: r => (literalString r).map fun read => (String.ofList read.1, read.2)
  | text      =>
    if (text.takeWhile isBare).isEmpty then none
    else some (String.ofList (text.takeWhile isBare), text.dropWhile isBare)

/-- The parts of a key, and the text behind it and the blanks there. -/
def key : (fuel : Nat) → List Char → Except Flaw (List String × List Char)
  | 0,        _    => .error .malformed
  | fuel + 1, text => do
    let (part, r) ← demand (keyPart text)
    match skipBlanks r with
    | '.' :: r => do
      let (parts, r) ← key fuel (skipBlanks r)
      .ok (part :: parts, r)
    | r => .ok ([part], r)

/-! ### Values -/

/-- The level of the items of an array at a level. -/
def itemLevel (level : Nat) : Nat := level + 2

/-- The level of the values of an inline table at a level. -/
def entryLevel (level : Nat) : Nat := level + 3

/-- The greatest level that a value may stand at. -/
def levelLimit : Nat := 985

mutual

/-- A value at a level. -/
def value : (fuel : Nat) → (level : Nat) → List Char → Except Flaw (Value × List Char)
  | 0,        _,     _    => .error .malformed
  | fuel + 1, level, text =>
    if levelLimit < level then .error .tooDeep
    else match text with
    | '"' :: _  => do
      let (chars, r) ← demand (quotedValue text)
      .ok (.string (String.ofList chars), r)
    | '\'' :: _ => do
      let (chars, r) ← demand (quotedValue text)
      .ok (.string (String.ofList chars), r)
    | '[' :: r  => do
      match ← skipGap false r with
      | ']' :: r => .ok (.array [], r)
      | r        => items fuel (itemLevel level) [] r
    | '\x7b' :: r =>
      match skipBlanks r with
      | '\x7d' :: r => .ok (.table [], r)
      | r           => pairs fuel (entryLevel level) [] r
    | _ => plainValue text

/-- The items of an array behind some read before, and its end. -/
def items : (fuel : Nat) → (level : Nat) → List Value → List Char → Except Flaw (Value × List Char)
  | 0,        _,     _,      _    => .error .malformed
  | fuel + 1, level, before, text => do
    let (item, r) ← value fuel level text
    match ← skipGap false r with
    | ']' :: r => .ok (.array (before ++ [item]), r)
    | ',' :: r => do
      match ← skipGap false r with
      | ']' :: r => .ok (.array (before ++ [item]), r)
      | r        => items fuel level (before ++ [item]) r
    | _ => .error .malformed

/-- The pairs of an inline table behind some read before, and its end. -/
def pairs : (fuel : Nat) → (level : Nat) → Entries → List Char → Except Flaw (Value × List Char)
  | 0,        _,     _,      _    => .error .malformed
  | fuel + 1, level, before, text => do
    let (key, r) ← key fuel text
    let (item, r) ← value fuel level (skipBlanks (← demand (mark '=' r)))
    let entries ← demand (before.assign 0 item key)
    match skipBlanks r with
    | '\x7d' :: r => .ok (.table (entriesValue entries), r)
    | ',' :: r    => pairs fuel level entries (skipBlanks r)
    | _           => .error .malformed

end

/-! ### Documents -/

/-- The document after a line with a pair, and the text behind the pair. -/
def pair (d : Draft) (fuel : Nat) (text : List Char) : Except Flaw (Draft × List Char) := do
  let (key, r) ← key fuel text
  let (item, r) ← value fuel 0 (skipBlanks (← demand (mark '=' r)))
  .ok (← demand (d.assign key item), r)

/-- The document after a header, and the text behind it. -/
def header (d : Draft) (fuel : Nat) : List Char → Except Flaw (Draft × List Char)
  | '[' :: '[' :: r => do
    let (name, r) ← key fuel (skipBlanks r)
    let r ← demand (mark ']' r)
    let r ← demand (mark ']' r)
    .ok (← demand (d.appendTable name), r)
  | '[' :: r => do
    let (name, r) ← key fuel (skipBlanks r)
    let r ← demand (mark ']' r)
    .ok (← demand (d.openTable name), r)
  | _ => .error .malformed

/-- The document after the lines of a text. -/
def lines (fuel : Nat) (d : Draft) : (count : Nat) → List Char → Except Flaw Draft
  | 0,         _    => .error .malformed
  | count + 1, text =>
    match skipBlanks text with
    | []        => .ok d
    | '\n' :: r => lines fuel d count r
    | '#' :: r  => do lines fuel d count (← lineEnd ('#' :: r))
    | '[' :: r  => do
      let (d, r) ← header d fuel ('[' :: r)
      lines fuel d count (← lineEnd r)
    | text      => do
      let (d, r) ← pair d fuel text
      lines fuel d count (← lineEnd r)

/-- The table of a document, or the first flaw of a text that is none. -/
def parse (text : List Char) : Except Flaw Table :=
  let text := Text.shortenNewlines text
  (lines (2 * text.length + 2) .empty (text.length + 1) text).map Draft.table

end Lexis.Toml
