import GatedPipeline.Text.Affix

namespace GatedPipeline.Path

def isAbsolute (path : String) : Bool := path.startsWith "/"

/-- A path seen from a directory. An absolute one stays as it is. -/
def join (directory path : String) : String :=
  if isAbsolute path || directory.isEmpty then path
  else if directory.endsWith "/" then directory ++ path
  else directory ++ "/" ++ path

/-- Follows one step of a path, from a directory given by its names, the innermost first. -/
def follow (names : List String) (step : String) : List String :=
  if step = "" ∨ step = "." then names
  else if step = ".." then names.drop 1
  else step :: names

/-- The names on the way from the root, the innermost first. -/
def names (path : String) : List String := (Text.splitAt '/' path).foldl follow []

def ofNames (names : List String) : String := "/" ++ "/".intercalate names.reverse

/-- The absolute path without empty steps, dots and ways back. -/
def normal (path : String) : String := ofNames (names path)

def resolve (directory path : String) : String := normal (join directory path)

def parent (path : String) : String := ofNames ((names path).drop 1)

end GatedPipeline.Path
