import Scaffold.FilePath

namespace Scaffold

/-!
# Configuration
-/

/-- The settings of a project. -/
structure Config where
  /-- The directory that output paths are relative to. -/
  outputRoot : String := "."
  templatesDir : String := "templates"
  historyFile : String := "data/code-generate-history.json"
  /-- The path under which the generated Go code imports itself. -/
  moduleName : String := "app"
  formatter : List String := ["gofmt", "-w"]
  importOptimizer : List String := ["goimports", "-w"]
  deriving DecidableEq, Repr, Inhabited

namespace Config

/-- The place of a path that is relative to the output root. -/
def resolve (config : Config) (path : String) : String :=
  if FilePath.isAbsolute path then path else FilePath.join config.outputRoot path

def templatesPath (config : Config) : String :=
  config.resolve config.templatesDir

def historyPath (config : Config) : String :=
  config.resolve config.historyFile

end Config
end Scaffold
