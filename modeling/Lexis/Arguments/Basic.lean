import Lexis.Arguments.Given
import Lexis.Arguments.Usage
import Lexis.Text.Digit

/-!
# Arguments

The reading of a command line: one input file, and flags in any order before and behind it.  A
flag may be abbreviated to the start of a long spelling, carry its value behind an equals sign or
as the next argument, and short flags may be put together behind one dash.  What stands behind a
lone `--` is never a flag; attached to a flag, the two dashes give it nothing (`Given`).

Each argument first gets a `Shape` by itself; `Draft.consume` then goes through the arguments in
order.  So an ambiguous abbreviation is found before anything else is wrong, and a request for
help is met at its place in the order.
-/

namespace Lexis

/-- What a command line asks for; `none` stands for a flag that is not there. -/
structure Arguments where
  input     : String
  output    : Option (Given String)
  config    : Option (Given String)
  startLine : Option (Given Int)
  filename  : Option (Given String)
  format    : Option (Given Format)
  verbose   : Bool
  deriving DecidableEq, Repr

/-- A command line that asks for nothing to be done: for help, or by mistake. -/
inductive Halt where
  | help
  | usage (error : UsageError)
  deriving DecidableEq, Repr

namespace Arguments

/-! ### Shapes -/

/-- What an argument is, by itself. -/
inductive Shape where
  /-- An operand, or the value of a flag. -/
  | plain
  /-- The `--` behind which there are no flags. -/
  | separator
  /-- A flag by a short or a long spelling, and the text attached to it. -/
  | option (flag : Flag) (short : Bool) (attached : Option (List Char))
  /-- Something like a flag. -/
  | unknown
  deriving DecidableEq, Repr

namespace Shape

/-- A negative number: a dash, and decimal digits with at most one point before the last of them.
A line feed may end it. -/
def looksNegative : List Char → Bool
  | '-' :: rest =>
    let isDigit := fun c => (Text.decimalDigit? c).isSome
    let number  := Text.dropTrailing '\n' rest
    match number.dropWhile isDigit with
    | []            => !number.isEmpty
    | '.' :: places => !places.isEmpty && places.all isDigit
    | _             => false
  | _ => false

/-- The spelling in front of the first equals sign. -/
def spellingOf (argument : List Char) : List Char :=
  argument.takeWhile (· ≠ '=')

/-- The text behind the first equals sign. -/
def attachedOf (argument : List Char) : Option (List Char) :=
  (argument.dropWhile (· ≠ '=')).tail?

/-- The spellings that a flag's argument may stand for, each with its shape: those it abbreviates,
for a long one, and the one of its first letter, for a short one with a text attached. -/
def candidates (argument : List Char) : List (String × Shape) :=
  if argument.take 2 = ['-', '-'] then
    (Flag.spelled.filter fun spelled => (spellingOf argument).isPrefixOf spelled.1.toList).map
      fun spelled => (spelled.1, .option spelled.2 false (attachedOf argument))
  else
    (Flag.spelled.filter fun spelled => spelled.1.toList = argument.take 2).map
      fun spelled => (spelled.1, .option spelled.2 true (some (argument.drop 2)))

/-- Whether a spelling has one dash. -/
def isShort (argument : List Char) : Bool :=
  argument.take 2 ≠ ['-', '-']

/-- The shape of an argument in front of any separator. -/
def of (argument : String) : Except UsageError Shape :=
  let chars := argument.toList
  if chars.head? ≠ some '-' then .ok .plain
  else match Flag.ofSpelling? argument with
    | some flag => .ok (.option flag (isShort chars) none)
    | none =>
      if chars = ['-'] then .ok .plain
      else match attachedOf chars, Flag.ofSpelling? (String.ofList (spellingOf chars)) with
        | some attached, some flag => .ok (.option flag (isShort chars) (some attached))
        | _, _ =>
          match candidates chars with
          | []           =>
            .ok (if looksNegative chars || chars.contains ' ' then .plain else .unknown)
          | [(_, shape)] => .ok shape
          | several      => .error (.ambiguous argument (several.map Prod.fst))

/-- The arguments with their shapes. -/
def ofList : List String → Except UsageError (List (String × Shape))
  | []           => .ok []
  | "--" :: rest =>
    .ok (("--", .separator) :: rest.map fun argument => (argument, .plain))
  | argument :: rest => do
    let shape ← of argument
    let shapes ← ofList rest
    pure ((argument, shape) :: shapes)

end Shape

/-! ### Flags put together -/

/-- Flags in one argument: all but the last stand alone, and a text may be attached to the
last. -/
structure Cluster where
  before   : List Flag
  last     : Flag
  attached : Option String
  deriving DecidableEq, Repr

namespace Cluster

/-- The flags that a flag and the text attached to it make.  A flag that takes a value takes the
text; behind another short flag the text begins with a flag's letter. -/
def ofAttached (short : Bool) : Flag → List Char → Except UsageError Cluster
  | flag, [] =>
    if flag.takesValue then .ok ⟨[], flag, some ""⟩ else .error (.unwantedValue flag "")
  | flag, c :: rest =>
    if flag.takesValue then .ok ⟨[], flag, some (String.ofList (c :: rest))⟩
    else match short, Flag.ofSpelling? (String.ofList ['-', c]) with
      | true, some next =>
        if rest = [] then .ok ⟨[flag], next, none⟩
        else (ofAttached short next rest).map fun cluster =>
          { cluster with before := flag :: cluster.before }
      | _, _ => .error (.unwantedValue flag (String.ofList (c :: rest)))

/-- The flags that a flag and what is attached to it, if anything, make. -/
def of (flag : Flag) (short : Bool) : Option (List Char) → Except UsageError Cluster
  | none          => .ok ⟨[], flag, none⟩
  | some attached => ofAttached short flag attached

end Cluster

/-! ### The command line -/

/-- Arguments under way: what was asked for so far, and what found no place. -/
structure Draft where
  input     : Option String
  output    : Option (Given String)
  config    : Option (Given String)
  startLine : Option (Given Int)
  filename  : Option (Given String)
  format    : Option (Given Format)
  verbose   : Bool
  leftOver  : List String
  deriving DecidableEq, Repr

namespace Draft

/-- Nothing asked for. -/
def empty : Draft :=
  ⟨none, none, none, none, none, none, false, []⟩

/-- The draft with an argument left over. -/
def leave (d : Draft) (argument : String) : Draft :=
  { d with leftOver := d.leftOver ++ [argument] }

/-- The draft with a flag's value; a flag given again has its last value. -/
def set (d : Draft) (flag : Flag) (value : String) : Except Halt Draft :=
  match flag with
  | .help      => .error .help
  | .verbose   => .ok { d with verbose := true }
  | .output    => .ok { d with output := some (.ofText value) }
  | .config    => .ok { d with config := some (.ofText value) }
  | .filename  => .ok { d with filename := some (.ofText value) }
  | .startLine =>
    match (Given.ofText value).read? fun text => Text.readInteger text.toList with
    | some given => .ok { d with startLine := some given }
    | none       => .error (.usage (.notInteger value))
  | .format    =>
    match (Given.ofText value).read? Format.ofName? with
    | some given => .ok { d with format := some given }
    | none       => .error (.usage (.notFormat value))

/-- The draft with flags that stand alone, and one flag with its value. -/
def setAll (d : Draft) (before : List Flag) (last : Flag) (value : String) : Except Halt Draft := do
  let d ← before.foldlM (fun d flag => d.set flag "") d
  d.set last value

/-- The draft after the arguments: the first operand is the input, and a separator beside it goes
with it. -/
def consume (d : Draft) : List (String × Shape) → Except Halt Draft
  | [] => .ok d
  | (argument, .unknown) :: rest => (d.leave argument).consume rest
  | (argument, .plain) :: rest =>
    match d.input, rest with
    | none,   (_, .separator) :: rest => { d with input := some argument }.consume rest
    | none,   rest                    => { d with input := some argument }.consume rest
    | some _, rest                    => (d.leave argument).consume rest
  | (argument, .separator) :: rest =>
    match d.input, rest with
    | none, (operand, _) :: rest => { d with input := some operand }.consume rest
    | _,    rest                 => (d.leave argument).consume rest
  | (_, .option flag short attached) :: rest =>
    match Cluster.of flag short attached with
    | .error e => .error (.usage e)
    | .ok ⟨before, last, some value⟩ => do (← d.setAll before last value).consume rest
    | .ok ⟨before, last, none⟩ =>
      if last.takesValue then
        match rest with
        | (value, .plain) :: rest => do (← d.setAll before last value).consume rest
        | _                       => .error (.usage (.missingValue last))
      else do (← d.setAll before last "").consume rest

/-- The arguments of a draft that is complete. -/
def finish (d : Draft) : Except Halt Arguments :=
  match d.input, d.leftOver with
  | none,       _        => .error (.usage .missingInput)
  | some input, []       =>
    .ok ⟨input, d.output, d.config, d.startLine, d.filename, d.format, d.verbose⟩
  | some _,     leftOver => .error (.usage (.unrecognized leftOver))

end Draft

/-- The arguments of a command line. -/
def parse (line : List String) : Except Halt Arguments := do
  match Shape.ofList line with
  | .error e   => .error (.usage e)
  | .ok shapes => (← Draft.empty.consume shapes).finish

end Arguments

end Lexis
