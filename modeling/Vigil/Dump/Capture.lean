import Vigil.Dump.Reader

/-!
# Capturing threads

A capture writes two dumps and reads them back: a dump of the calling thread alone, from which its
id is taken, and a dump of all threads.  Between the two the calling thread's stack may change, so
each dump has its own.

* `currentId` — the id that a dump of the calling thread gives away;
* `captureThreads` — that id and the threads of the other dump;
* `Settings.captureFrom` — as the settings say.
-/

namespace Vigil

open Dump

namespace Dump

/-- The id of the calling thread, as far as the budget shows it. -/
def currentId (budget : DumpBudget) (current : ThreadInfo) (stack : List Frame) : UInt64 :=
  firstId (writeCurrent budget current stack)

/-- The id of the calling thread and what a dump of all threads tells; `stack` is the calling
thread's stack at the first dump, and the census holds the one at the second. -/
def captureThreads (budget : DumpBudget) (stack : List Frame) (census : Census) : ThreadCapture :=
  { currentId := currentId budget census.current stack
    threads := (readPartial (writeAll budget census)).1 }

end Dump

/-- What is captured of the threads under some settings. -/
def Settings.captureFrom (s : Settings) (stack : List Frame) (census : Census) : ThreadCapture :=
  if s.captureThreads then Dump.captureThreads s.threadDump stack census
  else { currentId := Dump.currentId s.threadDump census.current stack }

end Vigil
