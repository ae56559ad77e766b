import Vigil.Settings
import Vigil.Toml.Document
import Vigil.Text.Utf8

/-!
# Settings from a document

Settings are read from a document by name: what is not named keeps its default, names that are no
settings are passed over, and a value of another kind is refused.  The two bounds of a dump may
also be given as a list, in order.

* `Settings.ofDocument` — settings from a text, checked;
* `Settings.ofFile` — settings from the bytes of a file.
-/

namespace Vigil

open Toml

/-- Why settings cannot be taken from a document. -/
inductive DocumentFault where
  /-- The document is malformed, or a setting has a value of another kind. -/
  | malformed
  /-- A key in the document has too many parts. -/
  | longKey
  /-- The settings in it are refused. -/
  | refused (fault : SettingsFault)
  /-- There is no file. -/
  | missing
  /-- The bytes of the file are no text. -/
  | notText
deriving DecidableEq, Repr

/-- What is wrong with a document as a fault. -/
def DocumentFault.ofFlaw : Flaw → DocumentFault
  | .malformed => .malformed
  | .longKey => .longKey

/-- The problem that a key with too many parts is. -/
def longKeyProblem : Problem := .settings "recursion limit\n"

/-- The number behind a setting that is a size. -/
def Toml.Value.size? : Toml.Value → Option UInt64
  | .integer n => if 0 ≤ n ∧ n < UInt64.size then some (UInt64.ofNat n.toNat) else none
  | _ => none

/-- The truth value behind a setting that is a switch. -/
def Toml.Value.switch? : Toml.Value → Option Bool
  | .boolean b => some b
  | _ => none

/-- A member read in some way, or the default if there is none. -/
def Toml.Members.getOr? {α : Type} (ms : Members) (key : String) (read : Toml.Value → Option α)
    (default : α) : Option α :=
  match ms.find? key.toList with
  | none => some default
  | some v => read v

/-- Members that are no settings are looked at all the same: every number in them can be held. -/
def Toml.Members.othersReadable (ms : Members) (keys : List String) : Bool :=
  ms.all fun m => keys.any (fun k => k.toList = m.1) || m.2.isReadable

/-- The bounds of a dump among the members of a table. -/
def DumpBudget.ofMembers? (ms : Members) : Option DumpBudget :=
  let d : DumpBudget := {}
  match ms.getOr? "bytes_per_thread" Toml.Value.size? d.bytesPerThread,
    ms.getOr? "max_bytes" Toml.Value.size? d.maxBytes with
  | some bytesPerThread, some maxBytes =>
    if ms.othersReadable ["bytes_per_thread", "max_bytes"] then some { bytesPerThread, maxBytes }
    else none
  | _, _ => none

/-- The bounds of a dump: a table of the two, or a list of them in order, of which the later ones
may be missing.  What else the list holds is not looked at.  A date counts as a table without any of
the names. -/
def DumpBudget.ofValue? : Toml.Value → Option DumpBudget
  | .table _ ms => ofMembers? ms
  | .date => some {}
  | .array [] => some {}
  | .array [v] => v.size?.map fun n => { bytesPerThread := n }
  | .array (v :: w :: _) =>
    match v.size?, w.size? with
    | some bytesPerThread, some maxBytes => some { bytesPerThread, maxBytes }
    | _, _ => none
  | _ => none

namespace Settings

/-- The settings among the members of a document. -/
def ofMembers? (ms : Members) : Option Settings :=
  let d : Settings := {}
  match ms.getOr? "stack_buffer_len" Toml.Value.size? d.stackBufferLength,
    ms.getOr? "pool_capacity" Toml.Value.size? d.poolCapacity,
    ms.getOr? "capture_threads" Toml.Value.switch? d.captureThreads,
    ms.getOr? "thread_dump" DumpBudget.ofValue? d.threadDump with
  | some stackBufferLength, some poolCapacity, some captureThreads, some threadDump =>
    if ms.othersReadable ["stack_buffer_len", "pool_capacity", "capture_threads", "thread_dump"] then
      some { stackBufferLength, poolCapacity, captureThreads, threadDump }
    else none
  | _, _, _, _ => none

/-- The settings in a document, checked. -/
def ofDocument (s : List Char) : Except DocumentFault Settings :=
  match readDocument s with
  | .error flaw => .error (.ofFlaw flaw)
  | .ok ms =>
    match ofMembers? ms with
    | none => .error .malformed
    | some settings =>
      match settings.check with
      | .error fault => .error (.refused fault)
      | .ok settings => .ok settings

/-- The settings in a file, given by its bytes if there is one. -/
def ofFile : Option (List UInt8) → Except DocumentFault Settings
  | none => .error .missing
  | some bytes =>
    match Text.decode? bytes with
    | none => .error .notText
    | some s => ofDocument s

end Settings

end Vigil
