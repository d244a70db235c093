import DispatchGen.Text.Quoted
import DispatchGen.Text.Split

/-! # Options of the command line

The options of the generator command, and what one word of a command line is taken for. A long option
may be shortened as long as one option remains, and a value may follow an equals sign.
-/
namespace DispatchGen.CommandLine

inductive Switch where
  | help | verbose
  deriving Repr, DecidableEq, Inhabited

inductive Setting where
  | proto | out | package | path
  deriving Repr, DecidableEq, Inhabited

inductive Flag where
  | switch (switch : Switch)
  | setting (setting : Setting)
  deriving Repr, DecidableEq, Inhabited

def spellings : List (String × Flag) :=
  [("-h", .switch .help), ("--help", .switch .help), ("--proto", .setting .proto),
   ("--out", .setting .out), ("--package", .setting .package), ("--path", .setting .path),
   ("-v", .switch .verbose), ("--verbose", .switch .verbose)]

/-- The option as messages name it: all its spellings. -/
def Flag.display (flag : Flag) : String :=
  "/".intercalate ((spellings.filter (·.2 = flag)).map (·.1))

inductive UsageError where
  | ambiguous (word : String) (candidates : List String)
  | expectedValue (flag : Flag)
  | unusedValue (flag : Flag) (value : String)
  | missing (names : List String)
  | unrecognized (words : List String)
  deriving Repr, DecidableEq

def UsageError.message : UsageError → String
  | ambiguous word candidates =>
    "ambiguous option: " ++ word ++ " could match " ++ ", ".intercalate candidates
  | expectedValue flag => "argument " ++ flag.display ++ ": expected one argument"
  | unusedValue flag value =>
    "argument " ++ flag.display ++ ": ignored explicit argument " ++ Text.quoted value
  | missing names => "the following arguments are required: " ++ ", ".intercalate names
  | unrecognized words => "unrecognized arguments: " ++ " ".intercalate words

/-- What a word is taken for. A divider makes all words behind it plain. Text behind an option in the
same word is attached to it, whether an equals sign stands between them or not. -/
inductive Word where
  | plain (text : String)
  | divider (behind : List String)
  | unknown (text : String)
  | option (flag : Flag) (short : Bool) (attached : Option (List Char))
  deriving Repr, DecidableEq

namespace Word
open Text

/-- The code points of the digit zero in all scripts; the other nine digits follow each. -/
def digitZeros : List Nat :=
  [0x30, 0x660, 0x6f0, 0x7c0, 0x966, 0x9e6, 0xa66, 0xae6, 0xb66, 0xbe6, 0xc66, 0xce6, 0xd66, 0xde6,
   0xe50, 0xed0, 0xf20, 0x1040, 0x1090, 0x17e0, 0x1810, 0x1946, 0x19d0, 0x1a80, 0x1a90, 0x1b50,
   0x1bb0, 0x1c40, 0x1c50, 0xa620, 0xa8d0, 0xa900, 0xa9d0, 0xa9f0, 0xaa50, 0xabf0, 0xff10, 0x104a0,
   0x10d30, 0x11066, 0x110f0, 0x11136, 0x111d0, 0x112f0, 0x11450, 0x114d0, 0x11650, 0x116c0,
   0x11730, 0x118e0, 0x11950, 0x11c50, 0x11d50, 0x11da0, 0x16a60, 0x16ac0, 0x16b50, 0x1d7ce,
   0x1d7d8, 0x1d7e2, 0x1d7ec, 0x1d7f6, 0x1e140, 0x1e2f0, 0x1e950, 0x1fbf0]

def isDigit (c : Char) : Bool :=
  digitZeros.any fun z => z ≤ c.toNat && c.toNat < z + 10

/-- A minus sign and a decimal number, with at most one line feed at the end. -/
def isNegativeNumber (word : List Char) : Bool :=
  match dropEnding ['\n'] word with
  | '-' :: number =>
    let fraction := (number.dropWhile isDigit).drop 1
    if number.all isDigit then number ≠ []
    else (number.dropWhile isDigit).head? = some '.' && fraction ≠ [] && fraction.all isDigit
  | _ => false

def candidates (opening : List Char) : List (String × Flag) :=
  spellings.filter fun (spelling, _) => opening.isPrefixOf spelling.toList

/-- A word with two hyphens that is not spelled out: a shortened option, perhaps with a value. -/
def ofLong (word : String) : Except UsageError (Option Word) :=
  let (opening, attached) := match splitFirst? '=' word.toList with
    | some (opening, value) => (opening, some value)
    | none => (word.toList, none)
  match candidates opening with
  | [] => .ok none
  | [(_, flag)] => .ok (some (.option flag false attached))
  | several => .error (.ambiguous word (several.map fun (spelling, _) => spelling))

/-- A word with one hyphen: a short option with text directly behind it. -/
def ofShort (word : List Char) : Option Word :=
  (spellings.lookup (String.ofList (word.take 2))).map fun flag =>
    .option flag true (some (word.drop 2))

def isShort (spelling : List Char) : Bool :=
  spelling[1]? ≠ some '-'

/-- An option spelled out, alone or before an equals sign. -/
def spelledOut? (word : String) : Option Word :=
  match spellings.lookup word with
  | some flag => some (.option flag (isShort word.toList) none)
  | none =>
    (splitFirst? '=' word.toList).bind fun (spelling, value) =>
      (spellings.lookup (String.ofList spelling)).map fun flag =>
        .option flag (isShort spelling) (some value)

/-- A word in front of any divider. Words that look like an option and are none are unknown, except
negative numbers and words with a blank inside. -/
def classify (word : String) : Except UsageError Word :=
  let text := word.toList
  if text.head? ≠ some '-' ∨ text = ['-'] then .ok (.plain word)
  else match spelledOut? word with
    | some known => .ok known
    | none => do
      let shortened ← if isShort text then .ok (ofShort text) else ofLong word
      match shortened with
      | some known => .ok known
      | none =>
        if isNegativeNumber text ∨ text.contains ' ' then .ok (.plain word) else .ok (.unknown word)

/-- The words of a command line up to a divider, and the divider with the words behind it. -/
def classifyAll : List String → Except UsageError (List Word)
  | [] => .ok []
  | word :: rest =>
    if word = "--" then .ok [.divider rest]
    else do
      let first ← classify word
      let others ← classifyAll rest
      return first :: others

end Word
end DispatchGen.CommandLine
