import GatewayPolicy.Target
/-!
# Stores

Policy documents, fragments and named values live outside of this library. What it needs of such a
place is to look a document up, to save one, and to know whether a fragment or a named value exists;
each of these can fail. A store in memory keeps all three and never fails.
-/

namespace GatewayPolicy

/-- Looks a policy document up. -/
abbrev Lookup := Target → Except Error (Option String)

/-- Tells whether something with the name exists. -/
abbrev Existence := String → Except Error Bool

/-- A store in memory. -/
structure Store where
  /-- The policy documents, under the keys of their targets. -/
  policies : NameMap String := .empty
  /-- The fragments. -/
  fragments : NameMap String := .empty
  /-- The named values. -/
  namedValues : NameMap String := .empty

namespace Store

/-- Files the policy document of a target. -/
def insertPolicy (s : Store) (t : Target) (xml : String) : Store :=
  { s with policies := s.policies.insert t.key xml }

/-- Files a fragment. -/
def insertFragment (s : Store) (id xml : String) : Store :=
  { s with fragments := s.fragments.insert id xml }

/-- Files a named value. -/
def insertNamedValue (s : Store) (name value : String) : Store :=
  { s with namedValues := s.namedValues.insert name value }

/-- The policy document of a target. -/
def policy? (s : Store) (t : Target) : Option String := s.policies.get? t.key

/-- Looks policy documents up in the store. -/
def lookup (s : Store) : Lookup := fun t => .ok (s.policy? t)

/-- Saves a policy document in the store. -/
def save (s : Store) (t : Target) (xml : String) : Except Error Store := .ok (s.insertPolicy t xml)

/-- Tells whether the store has a fragment. -/
def hasFragment (s : Store) : Existence := fun id => .ok (s.fragments.contains id)

/-- Tells whether the store has a named value. -/
def hasNamedValue (s : Store) : Existence := fun name => .ok (s.namedValues.contains name)

end Store

/-! ## References of a model -/

/-- What a model refers to and nobody could find. -/
structure ReferenceReport where
  /-- The fragments. -/
  missingFragments : NameSet
  /-- The named values. -/
  missingNamedValues : NameSet

namespace ReferenceReport

/-- Everything was found. -/
def isComplete (r : ReferenceReport) : Bool :=
  r.missingFragments.isEmpty && r.missingNamedValues.isEmpty

/-- The report as a JSON value. -/
def toJson (r : ReferenceReport) : Json :=
  .object [("missingFragments", .texts r.missingFragments.keys),
    ("missingNamedValues", .texts r.missingNamedValues.keys)]

end ReferenceReport

/-- The names that do not exist, asked for one after the other; the first failure ends it. -/
def missingNames (existence : Existence) (names : NameSet) : Except Error NameSet :=
  names.keys.foldlM (fun missing name =>
    match existence name with
    | .error e => .error e
    | .ok true => .ok missing
    | .ok false => .ok (missing.add name)) .empty

/-- Looks for everything that a model refers to: fragments first, then named values. -/
def Model.checkReferences (m : Model) (fragments namedValues : Existence) :
    Except Error ReferenceReport :=
  match missingNames fragments m.fragmentIds with
  | .error e => .error e
  | .ok missingFragments =>
    match missingNames namedValues m.namedValues with
    | .error e => .error e
    | .ok missingNamedValues => .ok { missingFragments, missingNamedValues }

end GatewayPolicy
