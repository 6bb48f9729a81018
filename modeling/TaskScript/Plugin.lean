/-
Plugins: source text that defines functions, looked up by name.
-/
import TaskScript.AscendingSet

namespace TaskScript

structure Plugin where
  name : String
  contents : String
  deriving DecidableEq, Repr

instance : Ord Plugin where
  compare a b := compare a.name b.name

instance : Std.TransOrd Plugin := inferInstanceAs (Std.TransCmp (compareOn Plugin.name))

/-- Plugins of different names. -/
structure PluginStore where
  plugins : AscendingSet Plugin := ∅
  deriving DecidableEq, Repr

namespace PluginStore

def get? (store : PluginStore) (name : String) : Option Plugin :=
  store.plugins.items.find? (·.name == name)

/-- Stores a plugin in the place of one of the same name. -/
def insert (store : PluginStore) (plugin : Plugin) : PluginStore :=
  ⟨store.plugins.replace plugin⟩

def ofList (plugins : List Plugin) : PluginStore :=
  plugins.foldl insert {}

end PluginStore

end TaskScript
