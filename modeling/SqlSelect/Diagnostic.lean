import SqlSelect.Expansion
import SqlSelect.Handler
import SqlSelect.Text.Quoted

/-!
# Diagnostic texts

How the parts of a compiler show themselves in diagnostics. Functions have no text, so of a registry
only the tags are shown and of an expander only the key settings.
-/

namespace SqlSelect

/-- A value in braces after its name. -/
def describeRecord (name body : String) : String :=
  name ++ " \x7b " ++ body ++ " \x7d"

def Registry.describe (r : Registry) : String :=
  describeRecord "ConditionRegistry"
    ("tags: [" ++ String.intercalate ", " (r.tags.map Text.quoted) ++ "]")

def KeySettings.describe (s : KeySettings) : String :=
  describeRecord "DeepJoinConfig"
    ("source_key_suffix: " ++ Text.quoted s.sourceKeySuffix ++ ", target_key: " ++
      Text.quoted s.targetKey)

def Expander.describe (x : Expander) : String :=
  describeRecord "DeepJoinExpander" ("config: " ++ x.settings.describe ++ ", ..")

/-- Whether a key generator is set. -/
def KeyGenerator.describe? : Option KeyGenerator → String
  | some _ => "Some(KeyGenerator(..))"
  | none => "None"

end SqlSelect
