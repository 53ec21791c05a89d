import RequirePath.Path.Basic

/-! From what a program requires to the paths that may satisfy it: a logical path below any load path, and
its two variants, the source file and the compiled one. -/

namespace RequirePath

/-- The logical path of a specifier: it starts with a slash, which takes the place of a leading dot and
slash. -/
def logicalPath (specifier : Pathname) : Pathname :=
  if dot.isPrefixOf specifier && (specifier.drop 1).head? == some slash then specifier.drop 1
  else if Pathname.isAbsolute specifier then specifier
  else slash :: specifier
where
  /-- The spelling of a dot. -/
  dot : Pathname := [46]

/-- The two paths that may satisfy a logical path. -/
structure Variants where
  primary : Pathname
  compiled : Pathname
  deriving DecidableEq, Repr

namespace Variants

/-- The variants in the order in which they are tried. -/
def toList (v : Variants) : List Pathname := [v.primary, v.compiled]

/-- The variants of a logical path. One with the primary suffix gets the compiled suffix in its stead; one
with the compiled suffix gets the primary suffix after it; others have none. -/
def of? (primarySuffix compiledSuffix logical : Pathname) : Option Variants :=
  if primarySuffix.isSuffixOf logical then
    some ⟨logical, logical.take (logical.length - primarySuffix.length) ++ compiledSuffix⟩
  else if compiledSuffix.isSuffixOf logical then some ⟨logical ++ primarySuffix, logical⟩
  else none

end Variants

end RequirePath
