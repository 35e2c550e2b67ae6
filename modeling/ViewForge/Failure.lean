/-!
# Failures

What can go wrong, as causes with one message each. A failure seen from outside is a trail of
messages, from what was attempted down to the innermost cause.
-/

namespace ViewForge

/-- A failure of the library. -/
inductive Failure where
  /-- The system refused to read or write. -/
  | io (reason : String)
  /-- Settings or profiles cannot be used. -/
  | config (reason : String)
  /-- A document has a mistake. -/
  | parse (document reason : String)
  /-- A document does not have the form that it must have. -/
  | malformed (document : String)
  /-- Nothing reads documents of a language. -/
  | unsupportedLanguage (language : String)
  /-- A request makes no sense. -/
  | invalidInput (reason : String)
  /-- Something failed while something else was done. -/
  | within (context : String) (cause : Failure)
  /-- A bare reason, such as the system gives. -/
  | plain (text : String)
  deriving Repr, DecidableEq

namespace Failure

/-- The message of a failure. -/
def message : Failure → String
  | io reason => "I/O error: " ++ reason
  | config reason => "Configuration error: " ++ reason
  | parse document reason => "Parse error in " ++ document ++ ": " ++ reason
  | malformed document => "Parse error in " ++ document
  | unsupportedLanguage language => "Unsupported language: " ++ language
  | invalidInput reason => "Invalid input: " ++ reason
  | within context cause => context ++ ": " ++ cause.message
  | plain text => text

/-- The message of a failure and those of the failures that led to it. -/
def trail : Failure → List String
  | io reason => [message (.io reason), reason]
  | within context cause => (within context cause).message :: cause.trail
  | other => [other.message]

end Failure

/-- A failure of a request: a failure of the library, or a fault of the request, perhaps behind
what was being done. -/
inductive Refusal where
  /-- The library failed. -/
  | failed (f : Failure)
  /-- The request cannot be met. -/
  | because (reason : String)
  /-- Something was being done. -/
  | during (activity : String) (cause : Refusal)
  deriving Repr, DecidableEq

namespace Refusal

/-- The messages of a refusal, outermost first. -/
def trail : Refusal → List String
  | failed f => f.trail
  | because reason => [reason]
  | during activity cause => activity :: cause.trail

end Refusal

end ViewForge
