/-!
Pairs of keys and values in the order in which the keys first arrived. Writing under a key that is
already there keeps its place and replaces the value. Which keys count as one is a parameter.
-/

namespace RecordCheck.Entries

variable {key value : Type}

def put (same : key → key → Bool) (name : key) (item : value) :
    List (key × value) → List (key × value)
  | [] => [(name, item)]
  | (known, old) :: rest =>
      if same known name then (known, item) :: rest
      else (known, old) :: put same name item rest

def ofPairs (same : key → key → Bool) (pairs : List (key × value)) : List (key × value) :=
  pairs.foldl (fun entries pair => put same pair.1 pair.2 entries) []

def find? (same : key → key → Bool) (name : key) : List (key × value) → Option value
  | [] => none
  | (known, item) :: rest => if same known name then some item else find? same name rest

def ofTexts (pairs : List (String × value)) : List (String × value) := ofPairs (· == ·) pairs

/-- The first pair of each key, in order. -/
def firsts [DecidableEq key] : List (key × value) → List (key × value)
  | [] => []
  | (name, item) :: rest => (name, item) :: (firsts rest).filter fun pair => pair.1 != name

end RecordCheck.Entries
