import HostFilter.Error

/-!
# Consultations

A computation that may fail and that writes down which models it asked for, in
order.  What follows a failure is not run and asks nothing.
-/

namespace HostFilter

/-- The outcome of a computation and the models that it asked for. -/
structure Consult (α : Type) where
  asked : List String
  outcome : Except FilterError α

namespace Consult

variable {α β : Type}

/-- A result that asks for nothing. -/
def lift (outcome : Except FilterError α) : Consult α :=
  ⟨[], outcome⟩

/-- A result that asked for one model. -/
def ask (model : String) (outcome : Except FilterError α) : Consult α :=
  ⟨[model], outcome⟩

/-- Go on with the result, if there is one. -/
def andThen (x : Consult α) (f : α → Consult β) : Consult β :=
  match x.outcome with
  | .error e => ⟨x.asked, .error e⟩
  | .ok a => ⟨x.asked ++ (f a).asked, (f a).outcome⟩

end Consult
end HostFilter
