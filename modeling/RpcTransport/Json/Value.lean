/-! # JSON values

A value keeps the members of an object as they were written. What an object means is its
`fields`: one value for each name, the last one written, in ascending order of the names.
Strings are ordered by code point, which is the order of their UTF-8 bytes.
-/

namespace RpcTransport.Json

/-- A JSON value. A number without fraction and exponent that fits 64 bits, signed or
    unsigned, is an integer; every other number is a binary64 float. -/
inductive Value where
  | null
  | bool (value : Bool)
  | integer (value : Int)
  | float (value : Float)
  | string (value : String)
  | array (items : List Value)
  | object (members : List (String × Value))
  deriving Inhabited

/-- Insert a name into an ascending list of fields, replacing the value it had. -/
def insertField (name : String) (value : α) : List (String × α) → List (String × α)
  | [] => [(name, value)]
  | field :: rest =>
    if name < field.1 then (name, value) :: field :: rest
    else if name = field.1 then (name, value) :: rest
    else field :: insertField name value rest

/-- Members in the order of their names, the last value winning for each name. -/
def sortFields (members : List (String × α)) : List (String × α) :=
  members.foldl (fun fields member => insertField member.1 member.2 fields) []

namespace Value

def fields? : Value → Option (List (String × Value))
  | object members => some (sortFields members)
  | _ => none

def get? (value : Value) (name : String) : Option Value :=
  match value.fields? with
  | some fields => fields.lookup name
  | none => none

def string? : Value → Option String
  | string text => some text
  | _ => none

def bool? : Value → Option Bool
  | bool value => some value
  | _ => none

def word64? : Value → Option UInt64
  | integer value =>
    if 0 ≤ value ∧ value < UInt64.size then some (UInt64.ofNat value.toNat) else none
  | _ => none

end Value

theorem mem_insertField {name : String} {value : α} {fields : List (String × α)}
    {field : String × α} (h : field ∈ insertField name value fields) :
    field = (name, value) ∨ field ∈ fields := by
  induction fields with
  | nil => simpa [insertField] using h
  | cons head rest ih =>
    unfold insertField at h
    split at h
    · simpa using h
    · split at h
      · rcases List.mem_cons.1 h with h | h
        · exact .inl h
        · exact .inr (List.mem_cons_of_mem _ h)
      · rcases List.mem_cons.1 h with h | h
        · exact .inr (h ▸ List.mem_cons_self)
        · exact (ih h).imp_right (List.mem_cons_of_mem _)

theorem lookup_insertField (name other : String) (value : α) (fields : List (String × α)) :
    (insertField name value fields).lookup other =
      if other = name then some value else fields.lookup other := by
  have differs {a b : String} (h : a ≠ b) : (a == b) = false := by simpa using h
  induction fields with
  | nil => by_cases h : other = name <;> simp [insertField, List.lookup_cons, h, differs]
  | cons head rest ih =>
    obtain ⟨key, old⟩ := head
    simp only [insertField]
    split
    · by_cases h : other = name <;> simp [List.lookup_cons, h, differs]
    · split
      · next hn =>
        subst hn
        by_cases h : other = name <;> simp [List.lookup_cons, h, differs]
      · next hn =>
        by_cases h : other = key
        · subst h
          simp [Ne.symm hn]
        · simp [List.lookup_cons, differs h, ih]

end RpcTransport.Json
