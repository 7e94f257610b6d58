import Mathlib
import PatternGuard.Proofs.Guard.Glob
import PatternGuard.Proofs.Modifier
import PatternGuard.Proofs.Regex.ReaderFaults

namespace PatternGuard.Guard

open PatternGuard.Regex

-- Closed statements are about the standard interpreter, all others bind one of their own.
attribute [local instance] Interpreter.standard

variable {c : Config} {now : Int} {pattern : String} {flags : Value}

end PatternGuard.Guard
