/-!
# Problems as they are told

Three kinds of things go wrong for a user of this library: settings are refused, a thread dump is
malformed, or something outside fails.  Each module says in its own type what exactly went wrong;
a problem is what is told of it.

* `Problem`, `Problem.message`, `Problem.isDump`.
-/

namespace Vigil

/-- What went wrong, in words. -/
inductive Problem where
  /-- Settings that are refused. -/
  | settings (detail : String)
  /-- A thread dump that is malformed in the line given, counted from one. -/
  | dump (line : Nat) (detail : String)
  /-- A failure outside. -/
  | outside (detail : String)
deriving DecidableEq, Repr

namespace Problem

/-- The problem in one sentence. -/
def message : Problem → String
  | settings detail => "invalid configuration: " ++ detail
  | dump line detail => "malformed thread dump at line " ++ toString line ++ ": " ++ detail
  | outside detail => "i/o error: " ++ detail

/-- A thread dump is malformed. -/
def isDump : Problem → Bool
  | dump _ _ => true
  | _ => false

end Problem

end Vigil
