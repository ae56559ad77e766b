import Vigil.Value

/-!
# Failures

What is observed: an error that was raised, or a panic with whatever it carried.  Only two kinds of
payloads are read as text.

* `Payload`, `Payload.text?`, `Payload.display`, `Payload.reclaim`;
* `Failure`, `Failure.message`;
* `Account`, `Failure.account` — what a report says of a failure.
-/

namespace Vigil

open Text

/-- What a panic carries. -/
inductive Payload where
  /-- A text that is part of the program. -/
  | literal (s : String)
  /-- A text that the panic owns. -/
  | owned (s : String)
  | number (n : Int32)
  | unit
  /-- A text in a box. -/
  | boxed (s : String)
  /-- A text that others hold too. -/
  | shared (s : String)
deriving DecidableEq, Inhabited

namespace Payload

/-- The payload as text; only texts of the program and owned ones can be read. -/
def text? : Payload → Option String
  | literal s => some s
  | owned s => some s
  | _ => none

/-- The payload as text, or that it is something. -/
def display (p : Payload) : String := p.text?.getD "Box<dyn Any>"

def describe (p : Payload) : String := "PanicValue(" ++ quote p.display ++ ")"

/-- The payload reads as this text. -/
def reads (p : Payload) (s : String) : Bool := p.text? == some s

/-- Take the payload back from a value that `others` more copies share: only the last copy gives it
back, any other is handed back itself. -/
def reclaim (p : Payload) (others : Nat) : Except Payload Payload :=
  if others = 0 then .ok p else .error p

end Payload

/-- What is observed. -/
inductive Failure where
  | error (e : Fault)
  | panic (p : Payload)
deriving Inhabited

namespace Failure

/-- What is said of a failure. -/
def message : Failure → String
  | error e => e.val
  | panic p => p.display

end Failure

/-- What a report says of its failure.  Whoever may change a report can change each of these by itself. -/
structure Account where
  error? : Option Fault := none
  isPanic : Bool := false
  panic? : Option Payload := none
deriving Inhabited

namespace Failure

def account : Failure → Account
  | error e => { error? := some e }
  | panic p => { isPanic := true, panic? := some p }

def isPanic (f : Failure) : Bool := f.account.isPanic

end Failure

end Vigil
