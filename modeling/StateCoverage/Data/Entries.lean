import StateCoverage.Data.Basic

/-!
Mappings: which keys are the same, what a key holds, and one mapping laid over another.
-/
namespace StateCoverage.Data

def keyNumber? : Data → Option Binary64
  | bool b => some (.ofDecimal false (if b then 1 else 0) 0)
  | int n => some (.ofDecimal (n < 0) n.natAbs 0)
  | float (.number _ (.finite 0 _)) => some (.ofDecimal false 0 0)
  | float x => some x
  | _ => none

/-- Are two keys the same? A whole number may be written with a point, and truth as a number. -/
def sameKey : Data → Data → Bool
  | null, null => true
  | string a, string b => a = b
  | date a, date b => a = b
  | instant a c, instant b d => a = b && c = d
  | a, b =>
    match keyNumber? a, keyNumber? b with
    | some x, some y => x = y
    | _, _ => false

/-- Writes an entry: a key that is there keeps its place. -/
def putEntry (key value : Data) : List (Data × Data) → List (Data × Data)
  | [] => [(key, value)]
  | (old, before) :: rest =>
    if sameKey old key then (old, value) :: rest else (old, before) :: putEntry key value rest

def changeEntry (key : Data) (change : Data → Data) (value : Data) :
    List (Data × Data) → List (Data × Data)
  | [] => [(key, value)]
  | (old, before) :: rest =>
    if sameKey old key then (old, change before) :: rest
    else (old, before) :: changeEntry key change value rest

mutual

/-- A value laid over a weaker one. Mappings are joined entry by entry; all else is replaced. -/
def layered : Data → Data → Data
  | map strong, map weak => map (entriesOver strong weak)
  | strong, _ => strong

def entriesOver : List (Data × Data) → List (Data × Data) → List (Data × Data)
  | [], weak => weak
  | (key, value) :: rest, weak => entriesOver rest (changeEntry key (layered value) value weak)

end

end StateCoverage.Data
