import Routing.Pattern.Token

/-!
# From a pattern to a regular expression

The expansions of the tokens are strung together; what was generated is never read again.

* `Expansion.ofText`: the regular expression for a pattern text, and its slots in order
-/
namespace Routing.Pattern

structure Expansion where
  body : List Char := []
  keys : List ParamSpec := []
  deriving DecidableEq, Repr

namespace Expansion

/-- The expansion of tokens that follow `slots` slots, of which `unnamed` go by position. -/
def ofTokens (slots unnamed : Nat) : List Token → Expansion
  | [] => {}
  | token :: rest =>
    let spec := (token.spec? unnamed).toList
    let positions := (spec.filter (·.key.index?.isSome)).length
    let later := ofTokens (slots + spec.length) (unnamed + positions) rest
    { body := token.expansion slots ++ later.body, keys := spec ++ later.keys }

def ofText (text : List Char) : Expansion :=
  ofTokens 0 0 (Token.lex text)

end Expansion

end Routing.Pattern
