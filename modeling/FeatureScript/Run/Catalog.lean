import FeatureScript.Script.Executor
import FeatureScript.Text.Literal

/-!
# FeatureScript.Run.Catalog

Providers by helper name. Each entry is what building its provider gives: an executor in its first
state, or the error of a definition that is refused. So every use of an entry starts afresh.
-/

namespace FeatureScript

/-- Entries in ascending order of their names, each name once. -/
structure Catalog where
  entries : List (String × Except RegistryError LiveExecutor)

namespace Catalog

def empty : Catalog := ⟨[]⟩

/-- Entries with one more, which takes the place of an entry of the same name. -/
def insert (name : String) (entry : Except RegistryError LiveExecutor) :
    List (String × Except RegistryError LiveExecutor) →
      List (String × Except RegistryError LiveExecutor)
  | [] => [(name, entry)]
  | e :: rest =>
    if name < e.1 then (name, entry) :: e :: rest
    else if name = e.1 then (name, entry) :: rest
    else e :: insert name entry rest

/-- Registers a provider, in place of any earlier one of the same name. -/
def register (c : Catalog) (helper : String) (entry : Except RegistryError LiveExecutor) :
    Catalog :=
  ⟨insert helper entry c.entries⟩

/-- A fresh executor, if a provider is registered under the name. -/
def instantiate (c : Catalog) (helper : String) : Option (Except RegistryError LiveExecutor) :=
  c.entries.lookup helper

def contains (c : Catalog) (helper : String) : Bool := (c.instantiate helper).isSome

/-- Registered names in ascending order. -/
def helpers (c : Catalog) : List String := c.entries.map Prod.fst

instance : Text.Literal Catalog := ⟨fun c => Text.setText (c.helpers.map Text.quote)⟩

end Catalog
end FeatureScript
