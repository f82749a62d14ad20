import Liquid.Token.Basic

/-!
# Errors

A template that does not parse is at fault at one place of its source. While it renders, an error
is either one of the template's own or one of the caller's: the deadline has passed, or an
argument makes no sense. Those of the caller end the render whatever the error mode.
-/

namespace Liquid

inductive Fault where
  | unknownTag (name : String)
  | blockNotClosed (block : String)
  | unexpectedElse (block : String)
  | invalidEnd (block delimiter : String)
  | tagNotTerminated (markup : String)
  | variableNotTerminated (markup : String)
  /-- The markup of a known tag does not fit its usage. -/
  | tagUsage (tag usage : String)
  | tooManyConditions (tag : String) (max : Nat)
  /-- An expression does not parse. -/
  | expression (message markup : String)
  /-- A tag may not stand where it stands. -/
  | rule (message : String)
deriving Repr, DecidableEq

def Fault.message : Fault → String
  | .unknownTag name => s!"unknown tag '{name}'"
  | .blockNotClosed block => s!"'{block}' tag was never closed"
  | .unexpectedElse block => s!"{block} tag does not expect else tag"
  | .invalidEnd block delimiter =>
    s!"'end' is not a valid delimiter for {block} tags. use {delimiter}"
  | .tagNotTerminated markup => s!"tag '{markup}' was not properly terminated"
  | .variableNotTerminated markup => s!"variable '{markup}' was not properly terminated"
  | .tagUsage tag usage => s!"syntax error in '{tag}' tag - valid syntax: {usage}"
  | .tooManyConditions tag max =>
    s!"syntax error in '{tag}' tag - max {max} conditions are allowed"
  | .expression message markup => s!"{message} in '{markup}'"
  | .rule message => message

/-- A fault, the name of the template and the place in its source. -/
structure SyntaxError where
  fault : Fault
  source : String
  span : Span
deriving Repr, DecidableEq

inductive Error where
  | malformed (e : SyntaxError)
  | render (message : String)
  | timeout
  | argument (message : String)
deriving Repr, DecidableEq

def Error.message : Error → String
  | .malformed e => e.fault.message
  | .render message => message
  | .timeout => "render deadline exceeded"
  | .argument message => message

/-- Errors of the caller are never written into the output. -/
def Error.isFatal : Error → Bool
  | .timeout => true
  | .argument _ => true
  | _ => false

end Liquid
