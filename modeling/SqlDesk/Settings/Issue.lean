/-!
# Issues of settings

Why a value is refused as a setting, and where.
-/

namespace SqlDesk.Settings

/-- Why a value is refused. -/
inductive IssueKind where
  | text
  | textEncoding
  | integer
  | integerText
  | integerFraction
  | integerFinite
  | integerSize
  | truth
  | truthText
  | list
  | path
  | choice
  | aboveBound
  | atLeastBound
  | unknownField
  | fieldName
  | fieldGroup
  | unknownAttribute
  | other
deriving DecidableEq, Repr

def IssueKind.label : IssueKind → String
  | .text => "string_type"
  | .textEncoding => "string_unicode"
  | .integer => "int_type"
  | .integerText => "int_parsing"
  | .integerFraction => "int_from_float"
  | .integerFinite => "finite_number"
  | .integerSize => "int_parsing_size"
  | .truth => "bool_type"
  | .truthText => "bool_parsing"
  | .list => "list_type"
  | .path => "path_type"
  | .choice => "literal_error"
  | .aboveBound => "greater_than"
  | .atLeastBound => "greater_than_equal"
  | .unknownField => "extra_forbidden"
  | .fieldName => "invalid_key"
  | .fieldGroup => "model_type"
  | .unknownAttribute => "no_such_attribute"
  | .other => "value_error"

/-- An issue and the place it arose at. -/
structure Issue where
  place : List String
  kind : IssueKind
deriving DecidableEq, Repr

/-- The same issue seen from outside a field. -/
def Issue.within (name : String) (i : Issue) : Issue := { i with place := name :: i.place }

/-- The order of lists of texts by code points. -/
def placesBelow : List String → List String → Bool
  | [], [] => false
  | [], _ :: _ => true
  | _ :: _, [] => false
  | a :: as, b :: bs =>
    let ks (s : String) : List Nat := s.toList.map Char.toNat
    if a = b then placesBelow as bs else decide (ks a < ks b)

/-- The order of issues in reports: by place, then by name. -/
def Issue.below (a b : Issue) : Bool :=
  if a.place = b.place then a.kind.label < b.kind.label else placesBelow a.place b.place

/-- Put an issue in its place among sorted ones. -/
def Issue.insert (a : Issue) : List Issue → List Issue
  | [] => [a]
  | b :: bs => if b.below a then b :: insert a bs else a :: b :: bs

def Issue.sorted (is : List Issue) : List Issue := is.foldr insert []

end SqlDesk.Settings
