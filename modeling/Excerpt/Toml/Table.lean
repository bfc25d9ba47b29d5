import Excerpt.Toml.Value

/-!
Tables: lookup, update and descent along a path of keys.
-/

namespace Excerpt.Table

def get? (key : Text) (t : Table) : Option Value := (t.find? fun e => e.1 == key).map (·.2)

def has (key : Text) (t : Table) : Bool := t.any fun e => e.1 == key

/-- Gives a key a value; a key that is there keeps its place. -/
def put (key : Text) (v : Value) : Table → Table
  | [] => [(key, v)]
  | e :: es => if e.1 == key then (key, v) :: es else e :: put key v es

@[simp] theorem get?_put_self (key : Text) (v : Value) (t : Table) :
    get? key (put key v t) = some v := by
  induction t with
  | nil => simp [put, get?]
  | cons e es ih =>
    by_cases h : e.1 = key
    · simp [put, get?, h]
    · simpa [put, get?, h] using ih

theorem get?_put_of_ne {key other : Text} (h : other ≠ key) (v : Value) (t : Table) :
    get? other (put key v t) = get? other t := by
  induction t with
  | nil => simp [put, get?, Ne.symm h]
  | cons e es ih =>
    by_cases hk : e.1 = key
    · simp [put, get?, hk, Ne.symm h]
    · by_cases ho : e.1 = other
      · simp [put, get?, ho, h]
      · simpa [put, get?, hk, ho] using ih

/-- The value at the end of a path of keys, if tables lead there. -/
def find? : List Text → Table → Option Value
  | [], t => some (.table t)
  | [key], t => t.get? key
  | key :: keys, t =>
    match t.get? key with
    | some (.table inner) => find? keys inner
    | _ => none

/-- Changes the table at the end of a path, with new tables where the path has none. With
`intoArrays` an array of tables stands for its last one. -/
def update? (intoArrays : Bool) (f : Table → Option Table) : List Text → Table → Option Table
  | [], t => f t
  | key :: keys, t =>
    match t.get? key with
    | none => (update? intoArrays f keys []).map fun inner => t.put key (.table inner)
    | some (.table inner) =>
      (update? intoArrays f keys inner).map fun inner => t.put key (.table inner)
    | some (.array xs) =>
      match intoArrays, xs.getLast? with
      | true, some (.table inner) =>
        (update? intoArrays f keys inner).map fun inner =>
          t.put key (.array (xs.dropLast ++ [.table inner]))
      | _, _ => none
    | some _ => none

/-- Opens the table at a path. -/
def openAt? (path : List Text) (t : Table) : Option Table := t.update? true some path

/-- Adds an empty table to the array of tables at a path. -/
def extendAt? (parent : List Text) (key : Text) (t : Table) : Option Table :=
  t.update? true (fun inner =>
    match inner.get? key with
    | none => some (inner.put key (.array [.table []]))
    | some (.array xs) => some (inner.put key (.array (xs ++ [.table []])))
    | some _ => none) parent

/-- Gives a key its value, once. -/
def enterAt? (intoArrays : Bool) (parent : List Text) (key : Text) (v : Value) (t : Table) :
    Option Table :=
  t.update? intoArrays (fun inner => if inner.has key then none else some (inner.put key v)) parent

end Excerpt.Table
