import Codegen.Plugin.Basic
import Codegen.Files.Path
import Codegen.Table

/-!
Plugins that have been loaded as scripts, with a record of what they have been run for.
-/

namespace Codegen.Plugin

/-- A loaded script. The record tells, for each kind of occasion, the identities that its hook has
been run for. -/
structure Script where
  name : String
  path : Files.Path
  plugin : Plugin
  executed : List (String × List (String × Bool)) := []

instance : Inhabited Script := ⟨⟨"", ⟨"", []⟩, .empty, []⟩⟩

namespace Script

def hooks (script : Script) : List String := script.plugin.hookNames

def hasRun (script : Script) (kind identity : String) : Bool :=
  (((script.executed.lookup kind).getD []).lookup identity).getD false

def mark (script : Script) (kind identity : String) : Script :=
  { script with
    executed :=
      Table.put kind (Table.put identity true ((script.executed.lookup kind).getD []))
        script.executed }

@[simp] theorem hasRun_mark (script : Script) (kind identity : String) :
    (script.mark kind identity).hasRun kind identity = true := by
  simp [mark, hasRun]

theorem hasRun_mark_iff (script : Script) (kind identity kind' identity' : String) :
    (script.mark kind identity).hasRun kind' identity' = true ↔
      (kind' = kind ∧ identity' = identity) ∨ script.hasRun kind' identity' = true := by
  by_cases hkind : kind' = kind
  · subst hkind
    by_cases hidentity : identity' = identity
    · subst hidentity
      simp
    · simp [mark, hasRun, hidentity, Table.lookup_put_of_ne hidentity]
  · simp [mark, hasRun, hkind, Table.lookup_put_of_ne hkind]

def text (script : Script) : String :=
  recordText "PluginHandle"
    [("name", Text.quoted script.name), ("path", Text.quoted script.path.toString),
     ("hooks", listText (script.hooks.map Text.quoted))]

end Script

end Codegen.Plugin
