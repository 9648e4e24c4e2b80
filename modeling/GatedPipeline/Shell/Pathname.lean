import GatedPipeline.Shell.State

namespace GatedPipeline.Shell

def textOf (m : List Marked) : String := String.ofList (m.map (·.1))

namespace Pathname

/-- A part of a path as it is looked for. -/
inductive Part where
  | plain (name : String)
  | pattern (p : Pattern) (showsHidden : Bool)
  | tree
deriving Repr

/-- A text that a bracket or a group with a dot in front may stand for can be hidden. -/
def mayBeHidden : List Glob → Bool
  | .char '.' :: _ => true
  | .group .never _ :: _ => false
  | .group _ alternatives :: _ => alternatives.any fun ps => ps.head?.any fun
      | .char c => c == '.'
      | _ => false
  | _ => false

def part (s : State) (m : List Marked) : Part :=
  let hasGroups := s.hasExtra "extglob"
  if !isPattern hasGroups m then .plain (textOf m)
  else if s.hasExtra "globstar" && m == [('*', false), ('*', false)] then .tree
  else
    let p := Pattern.ofMarked ⟨s.hasExtra "nocaseglob", s.charset⟩ s.grammar m
    .pattern p (s.hasExtra "dotglob" || mayBeHidden p.parts)

/-- The parts between slashes. Of trees next to each other one is enough. -/
def parts (s : State) (m : List Marked) : List Part :=
  let pieces := (Glob.settled m).splitOn ('/', false) |>.flatMap (·.splitOn ('/', true))
  (pieces.map (part s)).foldr (fun p rest =>
    match p, rest with
    | .tree, .tree :: _ => rest
    | _, _ => p :: rest) []

def isDirectory (s : State) (path : String) : Bool :=
  s.world.files.isDirectory (Path.resolve s.directory path)

/-- The names in a directory, whose path ends with a slash or is empty. -/
def listing (s : State) (front : String) : List String :=
  let path := if front.isEmpty then s.directory else Path.resolve s.directory front
  if s.world.files.isDirectory path then s.world.files.list path else []

/-- The paths of all that is below a directory, as many levels deep as are given. -/
def below (s : State) : Nat → String → List String
  | 0, _ => []
  | n + 1, front =>
    let names := (listing s front).filter fun x => s.hasExtra "dotglob" || !x.startsWith "."
    names.flatMap fun x =>
      let path := front ++ x
      path :: if isDirectory s path then below s n (path ++ "/") else []

/-- No path has more names in it. -/
def deepest : Nat := 2048

/-- The paths that a part leads to from others. A directory that a tree begins with is shown with
its slash where nothing but its name leads to it. -/
def step (s : State) (isLast isNamed : Bool) (fronts : List String) (p : Part) : List String :=
  match p with
  | .plain name =>
    fronts.filterMap fun front =>
      let path := front ++ name ++ if isLast then "" else "/"
      if path.isEmpty then none
      else if path.all (· == '/') then some path
      else
        match s.world.files.find s.directory path with
        | .ok _ => some path
        | .error _ => none
  | .pattern p showsHidden =>
    fronts.flatMap fun front =>
      let own := if s.isStrict || !s.hasExtra "globskipdots" then [".", ".."] else []
      let asks := p.parts.head?.any fun
        | .char c => c == '.'
        | _ => false
      let own := if asks && (front.isEmpty || isDirectory s front) then own else []
      let found := (own ++ listing s front).filter fun n =>
        p.isMatch n.toList && (showsHidden || !n.startsWith ".") &&
          (isLast || isDirectory s (front ++ n))
      found.map fun n => front ++ n ++ if isLast then "" else "/"
  | .tree =>
    fronts.flatMap fun front =>
      let inside := below s deepest front
      let own := if isNamed || front.all (· == '/') then front
        else String.ofList front.toList.dropLast
      if isLast then (if front.isEmpty then [] else [own]) ++ inside
      else front :: (inside.filter (isDirectory s)).map (· ++ "/")

/-- The patterns between colons, for which brackets and backslashes count. -/
def ignored (isInside : Bool) (acc : List Char) : List Char → List (List Char)
  | [] => [acc.reverse]
  | '\\' :: c :: cs => ignored isInside (c :: '\\' :: acc) cs
  | c :: cs =>
    if c == ':' && !isInside then acc.reverse :: ignored false [] cs
    else ignored (if c == '[' && cs.contains ']' then true else isInside && c != ']') (c :: acc) cs

/-- Names that are not wanted are left out of what is found. -/
def isWanted (s : State) (path : String) : Bool :=
  let patterns := (ignored false [] (s.setting "GLOBIGNORE").toList).filter (!·.isEmpty)
  let name := String.ofList ((path.toList.reverse.dropWhile (· == '/')).takeWhile (· != '/')).reverse
  if !s.ignoresNames || patterns.isEmpty then true
  else
    name != "." && name != ".." && !patterns.any fun p =>
      (Pattern.ofMarked ⟨s.hasExtra "nocaseglob", s.charset⟩ s.grammar (p.map (·, false))).isMatch
        path.toList

def names (s : State) (m : List Marked) : List String :=
  let ps := parts s m
  let count := ps.length
  let isNamed := ps.dropLast.all fun
    | .plain _ => true
    | _ => false
  let found := (ps.mapIdx fun i p => (p, i + 1 == count)).foldl
    (fun fronts p => step s p.2 isNamed fronts p.1) [""]
  (found.filter (isWanted s)).mergeSort (· ≤ ·)

def described (m : List Marked) : Act (List String) := do
  let s ← get
  if s.hasOption "noglob" || !isPattern (s.hasExtra "extglob") m then return [textOf m]
  else
    match names s m with
    | [] =>
      if s.hasExtra "failglob" then Act.abandonFirmly ("no match: " ++ textOf m)
      else return if s.hasExtra "nullglob" then [] else [textOf m]
    | ns => return ns

end Pathname

end GatedPipeline.Shell
