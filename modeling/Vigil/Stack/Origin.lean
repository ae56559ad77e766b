import Vigil.Text.Blank

/-!
# Where a function comes from

Functions of the language's own machinery and of this library stand between a report and the code
that caused it.  They are known by how their paths begin, whatever angle brackets are in front.

* `machineryPrefixes`, `isMachinery`.
-/

namespace Vigil

open Text

/-- How the paths of functions begin that are never the cause of a report. -/
def machineryPrefixes : List String :=
  ["belt::", "backtrace::", "rustc_demangle::", "std::", "core::", "alloc::", "panic_unwind::",
    "__rust", "rust_begin_unwind", "rust_panic"]

/-- The function is machinery. -/
def isMachinery (function : String) : Bool :=
  let path := function.toList.dropWhile (· == '<')
  machineryPrefixes.any fun lead => (afterPrefix? lead.toList path).isSome

end Vigil
