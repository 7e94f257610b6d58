import Mathlib
import PatternGuard.Proofs.Guard.Disclosure
import PatternGuard.Proofs.Guard.Session

namespace PatternGuard.Guard

-- Closed statements are about the standard interpreter, all others bind one of their own.
attribute [local instance] Regex.Interpreter.standard

def Making.step : Making → Step
  | .pattern p flags => .create p flags
  | .glob g => .glob g
  | .literal t => .literal t

namespace Making

end Making

namespace Session

end Session

example :
    let failed : Fault := ⟨.other "CallbackFailure", "callback failed"⟩
    let c : Config := { Config.standard with onBlock := some ⟨0, some failed⟩ }
    (Session.run ⟨c, none⟩ [(0, .create (.text "(a+)+") .null)]).2 =
      [⟨.error (.failure (.fault failed)), [blockLine 0 5 .nestedQuantifiers],
        [⟨.onBlock, Hazard.Signature.nestedQuantifier.message, .text "(a+)+"⟩]⟩] := rfl

end PatternGuard.Guard
