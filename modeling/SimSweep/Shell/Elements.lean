import SimSweep.Number.Reading

/-! # Lists of a shell

    A list has elements under subscripts, which are numbers in order, or names.
-/

namespace SimSweep.Shell

/-- The elements of a list by their subscripts. -/
structure Elements where
  /-- Whether the subscripts are names. -/
  isNamed : Bool := false
  /-- The elements, in the order of numbers; if the subscripts are names, the newest
      element is the first. -/
  items : List (String × String) := []

namespace Elements

/-- The element of a subscript. -/
def get? (e : Elements) (subscript : String) : Option String := e.items.lookup subscript

/-- The number that a subscript is. -/
def place (subscript : String) : Nat := Decimal.valueOf subscript.toList

/-- Puts an element under a subscript. -/
def put (e : Elements) (subscript value : String) : Elements :=
  if e.items.any (·.1 == subscript) then
    { e with items := e.items.map fun (s, v) => if s == subscript then (s, value) else (s, v) }
  else if e.isNamed then { e with items := (subscript, value) :: e.items }
  else
    let before := e.items.takeWhile fun (s, _) => decide (place s < place subscript)
    { e with items := before ++ (subscript, value) :: e.items.drop before.length }

/-- Removes the element of a subscript. -/
def remove (e : Elements) (subscript : String) : Elements :=
  { e with items := e.items.filter (·.1 != subscript) }

/-- The number behind the greatest subscript. -/
def size (e : Elements) : Nat :=
  match e.items.getLast? with
  | some (s, _) => place s + 1
  | none => 0

/-- How many rows the table of elements with names has. -/
def tableRows : Nat := 1024

/-- The row of the table in which a name is kept. -/
def row (name : String) : Nat :=
  let code := name.toList.foldl (fun (h : UInt32) c => (h * 16777619) ^^^ UInt32.ofNat c.toNat)
    2166136261
  code.toNat % tableRows

/-- The elements in the order in which they are listed. -/
def listed (e : Elements) : List (String × String) :=
  if e.isNamed then e.items.mergeSort fun a b => row a.1 ≤ row b.1 else e.items

/-- The elements without their subscripts. -/
def values (e : Elements) : List String := e.listed.map Prod.snd

/-- The subscripts. -/
def subscripts (e : Elements) : List String := e.listed.map Prod.fst

/-- The list with the given elements, under numbers from zero on. -/
def ofList (values : List String) : Elements :=
  { items := values.zipIdx.map fun (v, i) => (String.ofList (Decimal.digitsOf i), v) }

end Elements

end SimSweep.Shell
