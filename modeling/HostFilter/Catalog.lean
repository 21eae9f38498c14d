import HostFilter.Settings.Basic

/-!
# Catalogs of searchable fields

Which text fields of a model a search looks at.  A search only needs a `Provider`;
a catalog is one that holds its models in a table.
-/

namespace HostFilter

/-- The searchable fields of a model, or nothing for an unknown name. -/
abbrev Provider : Type :=
  String → Option (List String)

/-- The searchable fields of the models that are known. -/
structure Catalog where
  models : Entries (List String)

namespace Catalog

/-- The catalog that the settings describe. -/
def ofSettings (settings : Settings) : Catalog :=
  ⟨settings.searchFields⟩

/-- Add a model or replace its fields. -/
def register (c : Catalog) (model : String) (fields : List String) : Catalog :=
  ⟨c.models.insert model fields⟩

/-- The fields of a model. -/
def fields? (c : Catalog) : Provider :=
  fun model => c.models.find? model

/-- The number of models. -/
def size (c : Catalog) : Nat :=
  c.models.length

/-- Are there no models? -/
def isEmpty (c : Catalog) : Bool :=
  c.models.isEmpty

/-- A registered model has the fields it was registered with. -/
theorem fields?_register (c : Catalog) (model other : String) (fields : List String) :
    (c.register model fields).fields? other
      = if other = model then some fields else c.fields? other :=
  Entries.find?_insert model other fields c.models

end Catalog
end HostFilter
