import HostFilter.Catalog
import HostFilter.Condition.Basic
import HostFilter.Consult
import HostFilter.FactPath
import HostFilter.Formula.Basic
import HostFilter.Target

/-!
# What a clause means

A clause becomes a comparison of a field, a containment in the fact document, or a
search.  Only a search consults the provider, once.
-/

namespace HostFilter
namespace Clause

/-- The path of a searchable field behind a relation. -/
def searchPath (settings : Settings) (relation : Option String) (field : String) : String :=
  match relation with
  | some r => r ++ settings.separator ++ field
  | none => field

/-- The search for a value in the fields of a model. -/
def searchOutcome (settings : Settings) (relation : Option String) (value : Scalar)
    (model : String) : Option (List String) → Except FilterError Condition
  | none => .error (.unknownRelation model)
  | some [] => .error (.noSearchFields model)
  | some fields =>
    .ok (.search (fields.map fun field => ⟨searchPath settings relation field, .contains, value⟩))

/-- A search of the root model or of a relation's model. -/
def search (settings : Settings) (provider : Provider) (relation : Option String)
    (value : Scalar) : Consult Condition :=
  let model := relation.getD settings.rootModel
  .ask model (searchOutcome settings relation value model (provider model))

/-- The condition that a clause stands for. -/
def interpret (settings : Settings) (provider : Provider) (c : Clause) : Consult Condition :=
  match Target.ofKey settings c.key.text with
  | .field path => .lift (.ok (.field ⟨path, .exact, .ofFieldWord c.value⟩))
  | .facts path =>
    .lift ((FactPath.spell settings c.key.text path (Scalar.ofFactWord c.value).toJson).map
      fun document => .facts ⟨FactPath.column settings, document⟩)
  | .search relation => search settings provider relation (.ofFieldWord c.value)

end Clause
end HostFilter
