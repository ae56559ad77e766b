import Vigil.Toml.Value

/-!
# The tree of a document

A document is a tree of tables.  Headers and dotted keys open tables on the way to where they
point, and there are rules for what may be opened or added to a second time: a header opens a
table once, but may come after headers of tables inside it; dotted keys add to tables that dotted
keys opened or that headers only passed through, and these are closed to headers then; a list of
tables grows by headers of its own; a value stays as it is.

* `Members.set?` — put a value under a dotted key;
* `Members.descend?` — go along the path of a header and change what is there;
* `Members.openTable?`, `Members.addElement?` — what a header does at the end of its path.
-/

namespace Vigil.Toml

namespace Members

/-- What stands under a key. -/
def find? (k : Key) : Members → Option Value
  | [] => none
  | (k', v) :: ms => if k' = k then some v else find? k ms

/-- Put a value under a key, in the place of what stands there. -/
def put (k : Key) (v : Value) : Members → Members
  | [] => [(k, v)]
  | (k', w) :: ms => if k' = k then (k, v) :: ms else (k', w) :: put k v ms

/-- Put a value under a dotted key: under its last part, which must be free, in the table its
other parts lead to.  No header may have opened a table on the way, other than the last element of a
list of tables, and the value may not stand in that element itself. -/
def set? (v : Value) : List Key → Members → Option Members
  | [], _ => none
  | [k], ms =>
    match find? k ms with
    | none => some (put k v ms)
    | some _ => none
  | k :: k' :: ks, ms =>
    match find? k ms with
    | none => (set? v (k' :: ks) []).map fun inner => put k (.table .dotted inner) ms
    | some (.table origin inner) =>
      if origin = .dotted ∨ origin = .passed then
        (set? v (k' :: ks) inner).map fun inner => put k (.table .dotted inner) ms
      else none
    | some (.tables (last :: others)) =>
      if ks = [] then none
      else (set? v (k' :: ks) last).map fun last => put k (.tables (last :: others)) ms
    | some _ => none

/-- Go along a path, through tables that were not written as values and through the last element of
lists of tables, opening tables where there is nothing, and change the table at its end. -/
def descend? (change : Members → Option Members) : List Key → Members → Option Members
  | [], ms => change ms
  | k :: ks, ms =>
    match find? k ms with
    | none => (descend? change ks []).map fun inner => put k (.table .passed inner) ms
    | some (.table .inline _) => none
    | some (.table origin inner) =>
      (descend? change ks inner).map fun inner => put k (.table origin inner) ms
    | some (.tables (last :: others)) =>
      (descend? change ks last).map fun last => put k (.tables (last :: others)) ms
    | some _ => none

/-- Open a table under a key, where nothing stands or a table that headers only passed
through. -/
def openTable? (k : Key) (ms : Members) : Option Members :=
  match find? k ms with
  | none => some (put k (.table .opened []) ms)
  | some (.table .passed inner) => some (put k (.table .opened inner) ms)
  | some _ => none

/-- Add a further element to the list of tables under a key. -/
def addElement? (element : Members) (k : Key) (ms : Members) : Option Members :=
  match find? k ms with
  | none => some (put k (.tables [element]) ms)
  | some (.tables elements) => some (put k (.tables (element :: elements)) ms)
  | some _ => none

/-- Apply a header's effect at the end of its path: `change` gets the last key. -/
def atHeader? (change : Key → Members → Option Members) (path : List Key) (ms : Members) :
    Option Members :=
  match path.getLast? with
  | none => none
  | some k => descend? (change k) path.dropLast ms

end Members

end Vigil.Toml
