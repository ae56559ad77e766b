import Vigil.Text.Utf8

/-!
# Places in a text

A place in a text is the number of bytes in front of it.  A text can be cut only at its ends and where a
character begins.

* `IsBoundary` — the places where a text can be cut;
* `place?`, `lastPlace?` — where a character stands first and last;
* `cutAt?` — the parts in front of a place and behind it;
* `slice?` — the part between two places, if it can be cut out;
* `takeTo` — the part in front of a place, for a reader who relies on it that the text can be cut there;
* `canCut` — whether a text can be cut at a place, told from its bytes;
* `searchBack`, `clipBack` — clipping a text by searching backward for a place where it can be cut.
-/

namespace Vigil.Text

/-- The text can be cut here. -/
def IsBoundary (s : List Char) (n : Nat) : Prop := ∃ front behind, s = front ++ behind ∧ n = byteSize front

/-- The place of the first `c`. -/
def place? (c : Char) : List Char → Option Nat
  | [] => none
  | d :: s => if d = c then some 0 else (place? c s).map (d.utf8Size + ·)

/-- The place of the last `c`. -/
def lastPlace? (c : Char) : List Char → Option Nat
  | [] => none
  | d :: s =>
    match lastPlace? c s with
    | some n => some (d.utf8Size + n)
    | none => if d = c then some 0 else none

/-- The parts in front of a place and behind it; none if the place is inside a character or behind the
end. -/
def cutAt? : Nat → List Char → Option (List Char × List Char)
  | n, [] => if n = 0 then some ([], []) else none
  | n, c :: s =>
    if n = 0 then some ([], c :: s)
    else if c.utf8Size ≤ n then (cutAt? (n - c.utf8Size) s).map fun p => (c :: p.1, p.2)
    else none

/-- The part between two places; none if the second one is in front of the first one, or the text cannot
be cut at one of them. -/
def slice? (start stop : Nat) (s : List Char) : Option (List Char) :=
  if start ≤ stop then (cutAt? stop s).bind fun p => (cutAt? start p.1).map (·.2) else none

/-- A text was to be cut at a place where it cannot be cut. -/
structure BadCut where
  place : Nat
deriving DecidableEq, Repr

/-- The part in front of a place. -/
def takeTo (n : Nat) (s : List Char) : Except BadCut (List Char) :=
  match cutAt? n s with
  | some (front, _) => .ok front
  | none => .error ⟨n⟩

/-- Whether the text with these bytes can be cut at a place: at the beginning and at the end it can, elsewhere
if the byte behind the place continues no character. -/
def canCut (bytes : List UInt8) (n : Nat) : Bool :=
  if n = 0 then true
  else
    match bytes[n]? with
    | none => n == bytes.length
    | some b => !isContinuation b

/-- The first place that passes the test, from `n` on one at a time toward the beginning, for a reader who
relies on it that one does. -/
def searchBack (test : Nat → Bool) : Nat → Except BadCut Nat
  | 0 => if test 0 then .ok 0 else .error ⟨0⟩
  | n + 1 => if test (n + 1) then .ok (n + 1) else searchBack test n

/-- The text, or if it takes more than `budget` bytes, the part of it in front of the first place where it can
be cut, from the budget on backward. -/
def clipBack (budget : Nat) (s : List Char) : Except BadCut (List Char) :=
  if byteSize s ≤ budget then .ok s
  else (searchBack (canCut (encode s)) budget).bind fun n => takeTo n s

theorem place?_append {c : Char} {front : List Char} (h : c ∉ front) (behind : List Char) :
    place? c (front ++ c :: behind) = some (byteSize front) := by
  induction front with
  | nil => exact if_pos rfl
  | cons d front ih =>
    have hd : c ≠ d := List.ne_of_not_mem_cons h
    have hfront : c ∉ front := List.not_mem_of_not_mem_cons h
    rw [List.cons_append, place?, if_neg (Ne.symm hd), ih hfront]
    rfl

theorem place?_of_not_mem {c : Char} {s : List Char} (h : c ∉ s) : place? c s = none := by
  induction s with
  | nil => rfl
  | cons d s ih =>
    have hd : c ≠ d := List.ne_of_not_mem_cons h
    have hs : c ∉ s := List.not_mem_of_not_mem_cons h
    rw [place?, if_neg (Ne.symm hd), ih hs]
    rfl

theorem lastPlace?_of_not_mem {c : Char} {s : List Char} (h : c ∉ s) : lastPlace? c s = none := by
  induction s with
  | nil => rfl
  | cons d s ih =>
    have hd : c ≠ d := List.ne_of_not_mem_cons h
    have hs : c ∉ s := List.not_mem_of_not_mem_cons h
    rw [lastPlace?, ih hs, if_neg (Ne.symm hd)]

theorem lastPlace?_append (front : List Char) {c : Char} {behind : List Char} (h : c ∉ behind) :
    lastPlace? c (front ++ c :: behind) = some (byteSize front) := by
  induction front with
  | nil => rw [List.nil_append, lastPlace?, lastPlace?_of_not_mem h, if_pos rfl, byteSize]
  | cons d front ih => rw [List.cons_append, lastPlace?, ih, byteSize]

/-- A text can be cut between its parts. -/
theorem cutAt?_append (front behind : List Char) :
    cutAt? (byteSize front) (front ++ behind) = some (front, behind) := by
  induction front with
  | nil => cases behind <;> rfl
  | cons c front ih =>
    have hpos : byteSize (c :: front) ≠ 0 := by
      have hc : 0 < c.utf8Size := c.utf8Size_pos
      rw [byteSize]
      omega
    have hle : c.utf8Size ≤ byteSize (c :: front) := Nat.le_add_right _ _
    have hrest : byteSize (c :: front) - c.utf8Size = byteSize front := Nat.add_sub_cancel_left _ _
    rw [List.cons_append, cutAt?, if_neg hpos, if_pos hle, hrest, ih]
    rfl

/-- A text can be cut on either side of a character. -/
theorem isBoundary_append (front behind : List Char) (c : Char) :
    IsBoundary (front ++ c :: behind) (byteSize front) ∧
      IsBoundary (front ++ c :: behind) (byteSize front + c.utf8Size) := by
  refine ⟨⟨front, c :: behind, rfl, rfl⟩, front ++ [c], behind, by simp, ?_⟩
  rw [byteSize_append, byteSize, byteSize, Nat.add_zero]

theorem takeTo_append (front behind : List Char) : takeTo (byteSize front) (front ++ behind) = .ok front := by
  rw [takeTo, cutAt?_append]

/-- Of three parts of a text the one in the middle is what is between the places at its ends. -/
theorem slice?_append (front part behind : List Char) :
    slice? (byteSize front) (byteSize front + byteSize part) (front ++ (part ++ behind)) = some part := by
  rw [slice?, if_pos (Nat.le_add_right _ _), ← byteSize_append, ← List.append_assoc, cutAt?_append,
    Option.bind_some, cutAt?_append, Option.map_some]

theorem slice?_of_lt {start stop : Nat} (h : stop < start) (s : List Char) : slice? start stop s = none :=
  if_neg (Nat.not_le_of_lt h)

end Vigil.Text
