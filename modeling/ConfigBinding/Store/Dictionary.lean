/-!
# Dictionaries

Dictionaries that keep their entries in the order in which they were first added. A key that is set
again keeps its place.

* `Dictionary.update`: changes the value of a key, adding the key at the end if it is new;
* `Dictionary.ofList`: the last value given for a key counts, in the place of the first.
-/

namespace ConfigBinding.Dictionary

variable {α : Type}

/-- Changes the value of a key; a new key is added at the end, its value changed from `initial`. -/
def update (entries : List (String × α)) (key : String) (initial : α) (change : α → α) :
    List (String × α) :=
  match entries with
  | [] => [(key, change initial)]
  | (name, value) :: rest =>
    if name = key then (name, change value) :: rest
    else (name, value) :: update rest key initial change

def set (entries : List (String × α)) (key : String) (value : α) : List (String × α) :=
  update entries key value fun _ => value

/-- The dictionary of entries that may repeat keys. -/
def ofList (entries : List (String × α)) : List (String × α) :=
  entries.foldl (fun dictionary entry => set dictionary entry.1 entry.2) []

end ConfigBinding.Dictionary
