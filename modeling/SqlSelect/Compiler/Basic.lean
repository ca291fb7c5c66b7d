import SqlSelect.Expansion
import SqlSelect.Handler

/-!
# Compilers

A compiler is a dialect, the handlers of conditions and an expander of deep joins.
-/

namespace SqlSelect

/-- The settings of a compilation. -/
structure Compiler where
  dialect : Dialect := .generic
  registry : Registry := .standard
  expander : Expander := {}

/-- The store with its deep joins expanded, where the dialect asks for it. -/
def Compiler.expand {Q : Type} (c : Compiler) (s : Store Q) : Expansion Q :=
  if c.dialect.expandsDeepJoins then c.expander.expand s else ⟨s, [], none⟩

end SqlSelect
