import Std.Data.HashMap
import GatewayPolicy.Catalog.Entry
import GatewayPolicy.Text.LowerCase
import GatewayPolicy.Text.Search
/-!
# The catalog

A catalog is a list of entries with an index by identifier and one by category, so that looking a
policy up does not walk the list. The indexes hold positions. Of two entries with one identifier the
first is kept.
-/

namespace GatewayPolicy

/-- Catalog entries with indexes of their positions. -/
structure Catalog where
  /-- The entries, in the order they were given. -/
  entries : Array Entry
  /-- The position of the entry with an identifier. -/
  byId : Std.HashMap String Nat
  /-- The positions of the entries of a category, in ascending order. -/
  byCategory : Std.HashMap Category (List Nat)

namespace Catalog

/-- The catalog without entries. -/
def empty : Catalog := ⟨#[], ∅, ∅⟩

instance : Inhabited Catalog := ⟨empty⟩

/-- Adds an entry at the end, unless its identifier is taken. -/
def add (c : Catalog) (e : Entry) : Catalog :=
  if c.byId.contains e.id then c
  else
    { entries := c.entries.push e
      byId := c.byId.insert e.id c.entries.size
      byCategory := c.byCategory.insert e.category
        (c.byCategory.getD e.category [] ++ [c.entries.size]) }

/-- The catalog of a list of entries. -/
def ofEntries (es : List Entry) : Catalog := es.foldl add empty

/-- The entry with the identifier. -/
def get? (c : Catalog) (id : String) : Option Entry := (c.byId[id]?).bind (c.entries[·]?)

/-- The entries of a category, in order. -/
def ofCategory (c : Catalog) (category : Category) : List Entry :=
  (c.byCategory.getD category []).filterMap (c.entries[·]?)

/-- The categories that have entries. -/
def categories (c : Catalog) : List Category := Category.all.filter c.byCategory.contains

/-- How many entries there are. -/
def size (c : Catalog) : Nat := c.entries.size

/-- The entry has the text in its identifier, its name or its description; case does not matter in
the latter two. -/
def matchesText (text : String) (e : Entry) : Bool :=
  Text.containsText text e.id || Text.containsText text (Text.lowerCase e.name) ||
    Text.containsText text (Text.lowerCase e.description)

/-- The entries that have the trimmed query in lower case; every entry has the empty one. -/
def search (c : Catalog) (query : String) : List Entry :=
  c.entries.toList.filter (matchesText (Text.lowerCase (Text.trim query)))

end Catalog

end GatewayPolicy
