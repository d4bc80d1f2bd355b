import TableQuery.Schema.SnakeCase
import TableQuery.Text.Characters

/-!
# Schema — the properties of a resource and the columns behind them

A schema names a table and lists its members: fields, and embedded schemas whose fields count as
the outer schema's own, at the place of the embedding.  A property is looked up in that order,
without regard to the case of ASCII letters, and the first field with that name decides.
-/

namespace TableQuery

open TableQuery.Text

/-- A property: its name, the name that clients use instead, and the column if it is not made from
the name. -/
structure Field where
  name : String
  clientAlias : Option String
  column : Option String
  deriving DecidableEq, Repr

namespace Field

/-- A property known by its name alone. -/
def named (name : String) : Field := ⟨name, none, none⟩

/-- The name that clients use. -/
def clientName (f : Field) : String := f.clientAlias.getD f.name

/-- The column that holds the property. -/
def columnName (f : Field) : String := f.column.getD (snakeCase f.name)

/-- Whether clients mean this property by a name. -/
def answersTo (f : Field) (property : String) : Bool := eqIgnoreCase f.clientName property

end Field

/-- A member of a schema: a field, or the table and the members of an embedded schema. -/
inductive Member where
  | field (f : Field)
  | embedded (table : String) (members : List Member)
  deriving Repr

/-- A table and its members. -/
structure Schema where
  table : String
  members : List Member
  deriving Repr

mutual

/-- The column that a member gives to a property. -/
def Member.resolve (property : String) : Member → Option String
  | .field f => if f.answersTo property then some f.columnName else none
  | .embedded _ members => Member.resolveAll property members

/-- The column that the first of several members gives to a property. -/
def Member.resolveAll (property : String) : List Member → Option String
  | [] => none
  | m :: ms => (m.resolve property).or (Member.resolveAll property ms)

end

mutual

/-- The fields of a member, those of an embedded schema in their order. -/
def Member.fields : Member → List Field
  | .field f => [f]
  | .embedded _ members => Member.allFields members

/-- The fields of several members. -/
def Member.allFields : List Member → List Field
  | [] => []
  | m :: ms => m.fields ++ Member.allFields ms

end

namespace Schema

/-- The schema as a member of another. -/
def embed (s : Schema) : Member := .embedded s.table s.members

/-- All fields, in the order in which they are looked up. -/
def fields (s : Schema) : List Field := Member.allFields s.members

/-- The column of a property. -/
def resolve (s : Schema) (property : String) : Option String := Member.resolveAll property s.members

end Schema

/-- Gives properties their columns; none for an unknown property. -/
abbrev Resolver := String → Option String

end TableQuery
