/-
# Python's order and text of values

`a < b` and its siblings compare numbers by exact value, texts by code points and
lists lexicographically, and raise `TypeError` otherwise.  `list.sort` is stable
and makes only `<` comparisons, whose exceptions leave it.
-/

import HomeCortex.Common.Numbers

namespace HomeCortex
namespace Json

/-- `TypeError: '<' not supported between instances`. -/
def unordered : PyError := .type "'<' not supported between instances"

mutual

/-- How `a` compares with `b`; `none` when one of them is `nan`. -/
def pyOrder : Json → Json → Except PyError (Option Ordering)
  | .str a, .str b => .ok (some (compare a b))
  | .arr a, .arr b => pyOrderItems a b
  | .bool a, b => numOrder (.bool a) b
  | .int a, b => numOrder (.int a) b
  | .float a, b => numOrder (.float a) b
  | _, _ => .error unordered
where
  /-- The order of two numbers. -/
  numOrder (a b : Json) : Except PyError (Option Ordering) :=
    match exactNumber? a, exactNumber? b with
    | some a, some b => .ok (compareExact a b)
    | _, _ => .error unordered

/-- The order of the first items that differ, or of the lengths. -/
def pyOrderItems : List Json → List Json → Except PyError (Option Ordering)
  | [], [] => .ok (some .eq)
  | [], _ :: _ => .ok (some .lt)
  | _ :: _, [] => .ok (some .gt)
  | a :: as, b :: bs => if pyEq a b then pyOrderItems as bs else pyOrder a b

end

/-- `a < b`. -/
def pyLt (a b : Json) : Except PyError Bool := (pyOrder a b).map (· == some .lt)

/-- `a <= b`. -/
def pyLe (a b : Json) : Except PyError Bool :=
  (pyOrder a b).map fun order => order == some .lt || order == some .eq

/-- `bool(value)`. -/
def truthy : Json → Bool
  | .null => false
  | .bool b => b
  | .int n => n != 0
  | .float x => exactFloat x != .finite 0 0
  | .str text => text != ""
  | .arr items => !items.isEmpty
  | .obj fields => !fields.isEmpty

/-- `repr` of a text: the quotes and the ASCII control characters are escaped. -/
def reprText (text : String) : String :=
  let quote := if text.toList.contains '\'' && !text.toList.contains '"' then '"' else '\''
  let escape (c : Char) : List Char :=
    if c = '\\' then ['\\', '\\']
    else if c = quote then ['\\', quote]
    else if c = '\n' then ['\\', 'n']
    else if c = '\r' then ['\\', 'r']
    else if c = '\t' then ['\\', 't']
    else if c.toNat < 0x20 || c.toNat = 0x7f then
      ['\\', 'x', Nat.digitChar (c.toNat / 16), Nat.digitChar (c.toNat % 16)]
    else [c]
  String.ofList (quote :: text.toList.flatMap escape ++ [quote])

mutual

/-- `repr(value)`. -/
def pyRepr : Json → String
  | .null => "None"
  | .bool b => if b then "True" else "False"
  | .int n => toString n
  | .float x => toString x
  | .str text => reprText text
  | .arr items => "[" ++ ", ".intercalate (reprItems items) ++ "]"
  | .obj fields => "\x7b" ++ ", ".intercalate (reprFields fields) ++ "\x7d"

def reprItems : List Json → List String
  | [] => []
  | item :: items => pyRepr item :: reprItems items

def reprFields : List (String × Json) → List String
  | [] => []
  | (key, value) :: fields => (reprText key ++ ": " ++ pyRepr value) :: reprFields fields

end

/-- `str(value)`. -/
def pyStr : Json → String
  | .str text => text
  | value => pyRepr value

end Json

section Sorting

variable {α : Type} (key : α → Json)

/-- Insert `x` behind every element that is not greater. -/
def insertSorted (x : α) : List α → Except PyError (List α)
  | [] => .ok [x]
  | y :: ys => do
      if ← (key x).pyLt (key y) then return x :: y :: ys
      else return y :: (← insertSorted x ys)

/-- `list.sort(key=…)`. -/
def pySort (xs : List α) : Except PyError (List α) :=
  xs.foldlM (fun sorted x => insertSorted key x sorted) []

/-- `list.sort(key=…, reverse=…)`: a reversed sort keeps equal elements in their
order. -/
def pySortBy (reverse : Bool) (xs : List α) : Except PyError (List α) :=
  if reverse then (pySort key xs.reverse).map List.reverse else pySort key xs

end Sorting

example : (pySortBy id true [.str "b", .str "c", .str "a"]).toOption
    = some [.str "c", .str "b", .str "a"] := by
  decide +kernel

end HomeCortex
