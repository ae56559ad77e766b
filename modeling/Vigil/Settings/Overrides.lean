import Vigil.Settings
import Vigil.Text.Blank
import Vigil.Decimal.Unsigned

/-!
# Overrides

Two settings can be overridden by named texts from outside, such as the variables of an
environment: whether threads are captured, and how many bytes a dump may take.  Texts are trimmed
first; what is given is taken over before the settings as a whole are checked.

* `readSwitch?`, `readByteCount?` — the words for on and off, and numbers of bytes;
* `Settings.takeOver` — what one text does to settings;
* `Settings.overriddenBy` — settings with the given texts taken over.
-/

namespace Vigil

open Text Decimal

/-- The name under which capturing threads is switched. -/
def switchKey : String := "BELT_CAPTURE_THREADS"

/-- The name under which the bytes of a dump are limited. -/
def limitKey : String := "BELT_THREAD_DUMP_MAX_BYTES"

/-- A word for on or off, in either case, between blanks. -/
def readSwitch? (given : String) : Option Bool :=
  let word := String.ofList ((trim given.toList).map Char.toLower)
  if word ∈ ["1", "true", "yes", "on"] then some true
  else if word ∈ ["0", "false", "no", "off"] then some false
  else none

/-- A number of bytes, between blanks. -/
def readByteCount? (given : String) : Option UInt64 :=
  (readUnsigned? UInt64.size (trim given.toList)).map UInt64.ofNat

namespace Settings

/-- Take over what a text says, if one is given: `put` puts in what is read of it, and a text of which nothing
is read is a fault. -/
def takeOver {α : Type} (read? : String → Option α) (put : α → Settings) (fault : String → SettingsFault)
    (s : Settings) : Option String → Except SettingsFault Settings
  | none => .ok s
  | some given =>
    match read? given with
    | some a => .ok (put a)
    | none => .error (fault given)

/-- Take over the switch, if one is given. -/
def withSwitch (s : Settings) : Option String → Except SettingsFault Settings :=
  s.takeOver readSwitch? (fun on => { s with captureThreads := on }) (.notBoolean switchKey)

/-- Take over the limit, if one is given. -/
def withLimit (s : Settings) : Option String → Except SettingsFault Settings :=
  s.takeOver readByteCount? (fun n => { s with threadDump := { s.threadDump with maxBytes := n } })
    (.notByteCount limitKey)

/-- The settings with the texts that `lookup` gives taken over, checked as a whole. -/
def overriddenBy (s : Settings) (lookup : String → Option String) :
    Except SettingsFault Settings :=
  match s.withSwitch (lookup switchKey) with
  | .error e => .error e
  | .ok s =>
    match s.withLimit (lookup limitKey) with
    | .error e => .error e
    | .ok s => s.check

end Settings

end Vigil
