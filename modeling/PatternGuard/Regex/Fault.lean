import PatternGuard.Value

namespace PatternGuard.Regex

inductive Cause
  | danglingBackslash
  | badEscape (escape : String)
  | incompleteEscape (escape : String)
  | octalTooLarge (escape : String)
  | missing (what : String)
  | unterminatedName (terminator : String)
  | undefinedName (name : String)
  | openGroup
  | lookbehindGroup
  | unknownReference (group : Nat)
  | unterminatedSet
  | badRange (low high : String)
  | crossedRepeat
  | nothingToRepeat
  | multipleRepeat
  | unexpectedEnd
  | unknownExtension (text : String)
  | badGroupName (name : String)
  | unknownGroupName (name : String)
  | renamedGroup (name : String) (group earlier : Nat)
  | badGroupNumber
  | thirdBranch
  | unterminatedComment
  | unterminatedGroup
  | lateGlobalFlags
  | localeFlag
  | clashingFlags
  | unknownFlag
  | globalFlagOn
  | globalFlagOff
  | alphabetFlagOff
  | flagOnAndOff
  | unbalanced
  deriving DecidableEq, Repr

def Cause.message : Cause → String
  | .danglingBackslash => "bad escape (end of pattern)"
  | .badEscape e => s!"bad escape {e}"
  | .incompleteEscape e => s!"incomplete escape {e}"
  | .octalTooLarge e => s!"octal escape value {e} outside of range 0-0o377"
  | .missing what => s!"missing {what}"
  | .unterminatedName t => s!"missing {t}, unterminated name"
  | .undefinedName n => "undefined character name " ++ Text.quoted n
  | .openGroup => "cannot refer to an open group"
  | .lookbehindGroup => "cannot refer to group defined in the same lookbehind subpattern"
  | .unknownReference g => "invalid group reference " ++ Number.natString g
  | .unterminatedSet => "unterminated character set"
  | .badRange low high => s!"bad character range {low}-{high}"
  | .crossedRepeat => "min repeat greater than max repeat"
  | .nothingToRepeat => "nothing to repeat"
  | .multipleRepeat => "multiple repeat"
  | .unexpectedEnd => "unexpected end of pattern"
  | .unknownExtension t => s!"unknown extension ?{t}"
  | .badGroupName n => "bad character in group name " ++ Text.quoted n
  | .unknownGroupName n => "unknown group name " ++ Text.quoted n
  | .renamedGroup n g e =>
    "redefinition of group name " ++ Text.quoted n ++ " as group " ++ Number.natString g
      ++ "; was group " ++ Number.natString e
  | .badGroupNumber => "bad group number"
  | .thirdBranch => "conditional backref with more than two branches"
  | .unterminatedComment => "missing ), unterminated comment"
  | .unterminatedGroup => "missing ), unterminated subpattern"
  | .lateGlobalFlags => "global flags not at the start of the expression"
  | .localeFlag => "bad inline flags: cannot use 'L' flag with a str pattern"
  | .clashingFlags => "bad inline flags: flags 'a', 'u' and 'L' are incompatible"
  | .unknownFlag => "unknown flag"
  | .globalFlagOn => "bad inline flags: cannot turn on global flag"
  | .globalFlagOff => "bad inline flags: cannot turn off global flag"
  | .alphabetFlagOff => "bad inline flags: cannot turn off flags 'a', 'u' and 'L'"
  | .flagOnAndOff => "bad inline flags: flag turned on and off"
  | .unbalanced => "unbalanced parenthesis"

/-- Errors of the compiler, which come without a position. -/
inductive Objection
  | lookbehindWidth
  | template (operator : String)
  deriving DecidableEq, Repr

def Objection.message : Objection → String
  | .lookbehindWidth => "look-behind requires fixed-width pattern"
  | .template op => s!"internal: unsupported template operator {op}"

/-- What keeps `re` from compiling or matching. `longNumber` is a count with too many digits for
`int`, `hugeRepeat` one of `MAXREPEAT` or more, `hugeWord` a code point or flags beyond a C `int`,
`farLookbehind` a look-behind that the check of compiled code refuses, and `reversedGroup` a match
with a group that ends before it begins. -/
inductive Fault
  | syntaxAt (cause : Cause) (position : Nat)
  | objection (o : Objection)
  | localeFlag
  | asciiAndUnicode
  | longNumber (digits : Nat)
  | hugeRepeat
  | hugeWord
  | farLookbehind
  | reversedGroup
  | tooDeep (message : String)
  deriving DecidableEq, Repr

def digitLimit : Nat := 4300

def newlines (cs : List Char) : Nat := cs.count '\n'

def lineNote (pattern : List Char) (position : Nat) : String :=
  if newlines pattern == 0 then ""
  else
    let before := pattern.take position
    let column := (before.reverse.takeWhile (· != '\n')).length + 1
    " (line " ++ Number.natString (newlines before + 1) ++ ", column "
      ++ Number.natString column ++ ")"

def Fault.message (pattern : List Char) : Fault → String
  | .syntaxAt cause position =>
    cause.message ++ " at position " ++ Number.natString position ++ lineNote pattern position
  | .objection o => o.message
  | .localeFlag => "cannot use LOCALE flag with a str pattern"
  | .asciiAndUnicode => "ASCII and UNICODE flags are incompatible"
  | .longNumber n =>
    "Exceeds the limit (" ++ Number.natString digitLimit
      ++ " digits) for integer string conversion: value has " ++ Number.natString n
      ++ " digits; use sys.set_int_max_str_digits() to increase the limit"
  | .hugeRepeat => "the repetition number is too large"
  | .hugeWord => "Python int too large to convert to C int"
  | .farLookbehind => "invalid SRE code"
  | .reversedGroup =>
    "The span of capturing group is wrong, please report a bug for the re module."
  | .tooDeep message => message

def Fault.kind : Fault → FaultClass
  | .syntaxAt .. => .badPattern
  | .objection _ => .badPattern
  | .localeFlag => .badValue
  | .asciiAndUnicode => .badValue
  | .longNumber _ => .badValue
  | .hugeRepeat => .overflow
  | .hugeWord => .overflow
  | .farLookbehind => .runtime
  | .reversedGroup => .other "SystemError"
  | .tooDeep _ => .other "RecursionError"

def Fault.toFault (pattern : String) (f : Fault) : PatternGuard.Fault :=
  ⟨f.kind, f.message pattern.toList⟩

end PatternGuard.Regex
