namespace PatternGuard.Text

def isGlobSpecial (c : Char) : Bool :=
  c == '.' || c == '+' || c == '^' || c == '$' || c == '\x7b' || c == '\x7d' || c == '(' || c == ')'
    || c == '|' || c == '[' || c == ']' || c == '\\'

def isSpecial (c : Char) : Bool := c == '*' || c == '?' || isGlobSpecial c

def escapeWhere (special : Char → Bool) (cs : List Char) : List Char :=
  cs.flatMap fun c => if special c then ['\\', c] else [c]

def escapeChars (cs : List Char) : List Char := escapeWhere isSpecial cs

def escape (text : String) : String := String.ofList (escapeChars text.toList)

def unescapeChars : List Char → Option (List Char)
  | [] => some []
  | '\\' :: c :: cs => if isSpecial c then (unescapeChars cs).map (c :: ·) else none
  | c :: cs => if isSpecial c then none else (unescapeChars cs).map (c :: ·)

/-- `skip` counts the characters of an occurrence that are still to be passed over. -/
def replaceFrom (old new : List Char) : Nat → List Char → List Char
  | _, [] => []
  | skip + 1, _ :: cs => replaceFrom old new skip cs
  | 0, c :: cs =>
    if old.isPrefixOf (c :: cs) then new ++ replaceFrom old new (old.length - 1) cs
    else c :: replaceFrom old new 0 cs

def replaceAll (old new cs : List Char) : List Char := replaceFrom old new 0 cs

end PatternGuard.Text

namespace PatternGuard.Glob

inductive Token
  | anyRun
  | segmentRun
  | segmentChar
  | char (c : Char)
  deriving DecidableEq, Repr

def anyRunText : List Char := ['.', '*']

def segmentRunText : List Char := ['[', '^', '/', ']', '*']

def segmentCharText : List Char := ['[', '^', '/', ']']

def tokens : List Char → List Token
  | [] => []
  | '*' :: '*' :: cs => .anyRun :: tokens cs
  | c :: cs =>
    (if c == '*' then .segmentRun else if c == '?' then .segmentChar else .char c) :: tokens cs

def Token.render : Token → List Char
  | .anyRun => anyRunText
  | .segmentRun => segmentRunText
  | .segmentChar => segmentCharText
  | .char c => if Text.isGlobSpecial c then ['\\', c] else [c]

def mark : List Char := "\x7b\x7bGLOBSTAR\x7d\x7d".toList

/-- Pairs of stars are parked behind a mark, so that rewriting single stars and question marks
leaves them alone. -/
def translate (glob : List Char) : List Char :=
  let escaped := Text.escapeWhere Text.isGlobSpecial glob
  let marked := Text.replaceAll ['*', '*'] mark escaped
  let starred := Text.replaceAll ['*'] segmentRunText marked
  let queried := Text.replaceAll ['?'] segmentCharText starred
  Text.replaceAll mark anyRunText queried

def anchored (body : List Char) : List Char := '^' :: body ++ ['\\', 'Z']

def toPattern (glob : String) : String := String.ofList (anchored (translate glob.toList))

end PatternGuard.Glob
