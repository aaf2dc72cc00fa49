/-
# Excluding modules from a bundle

Modules are excluded by name, in any case and with or without the extension of their files.
-/
import MovePack.Package.Layout
import MovePack.Text.LowerCase

namespace MovePack.Package

/-- The name of the file of a module, in small letters. -/
def moduleFileName (name : Text) : Text :=
  let lower := Text.toLower name
  if lower.endsWith moduleExtension then lower else lower ++ moduleExtension

/-- The compiled module at a path is one of those with the given names. -/
def isExcluded (names : List Text) (path : Text) : Bool :=
  (names.map moduleFileName).contains (Text.toLower (Path.baseName path))

/-- What is recorded when a module is excluded. -/
def exclusionEntry (path : Text) : LogEntry := ⟨.info, "Excluding " ++ path⟩

end MovePack.Package
