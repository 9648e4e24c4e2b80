import GatedPipeline.Shell.Builtin.Completing
import GatedPipeline.Shell.Evaluation.Substituting

namespace GatedPipeline.Shell

namespace Evaluation

section

/- Evaluates a command within another one. -/
variable (inner : Command → Act Unit)

/-- The words in a text, between separators that are not quoted. -/
def listedWords (d : Dialect) (separators : List Char) :
    Nat → List Char → List Char → List (List Char)
  | 0, acc, cs => [acc.reverse ++ cs]
  | _ + 1, acc, [] => if acc.isEmpty then [] else [acc.reverse]
  | n + 1, acc, c :: cs =>
    let go (front rest : List Char) : List (List Char) :=
      listedWords d separators n (front.reverse ++ acc) rest
    let quoted (e : Enclosure) : List (List Char) :=
      match Expansion.enclosed? d e cs with
      | some (inside, rest) => go (c :: inside ++ [c]) rest
      | none => go [c] cs
    if separators.contains c then
      (if acc.isEmpty then [] else [acc.reverse]) ++ listedWords d separators n [] cs
    else
      match c with
      | '\\' => go (c :: cs.take 1) (cs.drop 1)
      | '\'' =>
        let inside := cs.takeWhile (· != '\'')
        go (c :: inside ++ ['\'']) (cs.drop (inside.length + 1))
      | '"' => quoted .double
      | '\x60' => quoted .back
      | '$' =>
        match Expansion.dollarExtent? d false cs with
        | some (front, rest) => go (c :: front) rest
        | none => go [c] cs
      | _ => go [c] cs

def expandedWords (text : String) : Act (List String) := do
  let s ← get
  let cs := text.toList
  let words := listedWords (Expansion.dialect s) s.separators (cs.length + 1) [] cs
  let all ← words.mapM fun w => do
    let spread := if s.hasOption "braceexpand" then Braces.expand (String.ofList w)
      else [String.ofList w]
    spread.mapM fun t => do
      let ps ← Expansion.pieces (substitute inner) false t.toList
      return (Piece.fields s.charset (← get).separators ps).map textOf
  return all.flatten.flatten

/-- A word as it is meant, without its quotes. -/
def plainWord (word : String) : String := Quoting.removed word

def replies (name word : String) : Act (List String) := do
  let s ← get
  match s.functions.get? name with
  | none =>
    Act.complain ("completion: function \x60" ++ name ++ "' not found")
    return []
  | some f =>
    let told : List (String × String) :=
      [("COMP_LINE", ""), ("COMP_POINT", "0"), ("COMP_TYPE", "0"), ("COMP_KEY", "0"),
        ("COMP_CWORD", "-1")]
    told.forM fun v => modify fun s => s.modifyVariable v.1 fun _ => Variable.ofText v.2
    modify fun s => s.modifyVariable "COMP_WORDS" fun _ => ⟨.list [], .none⟩
    call inner name f ["compgen", word, ""]
    let found := (((← get).lookup? "COMPREPLY").map (·.value.all)).getD []
    (("COMP_WORDS" :: "COMPREPLY" :: told.map (·.1))).forM fun n =>
      modify (State.forgetVariable n)
    return found

/-- What does not count is left out. An ampersand in the pattern stands for the word. -/
def withoutExcluded (pattern word : String) (found : List String) : Act (List String) := do
  let s ← get
  let rec filled : List Char → List Char
    | '\\' :: '&' :: cs => '\\' :: '&' :: filled cs
    | '&' :: cs => word.toList ++ filled cs
    | c :: cs => c :: filled cs
    | [] => []
  let isWanted := pattern.startsWith "!"
  let cs := filled (if isWanted then pattern.toList.drop 1 else pattern.toList)
  let p := Pattern.ofMarked s.comparison ⟨s.hasExtra "extglob", true⟩ (cs.map (·, false))
  return found.filter fun t => p.isMatch t.toList == isWanted

def completed (c : Completion) (word : String) : Act (List String) := do
  let s ← get
  let known := Builtin.candidates s c.sources word
  let named := (c.pattern.map fun p => Pathname.names s (p.toList.map (·, false))).getD []
  let listed ← do
    match c.words with
    | none => pure []
    | some t => pure ((← expandedWords inner t).filter (·.startsWith (plainWord word)))
  let replied ← do
    match c.function with
    | none => pure []
    | some f => replies inner f word
  let told ← do
    match c.command with
    | none => pure []
    | some t =>
      let text ← substitute inner (.rawOutput (t ++ " 'compgen' " ++ Quoting.single word ++ " ''"))
      pure (if text.isEmpty then [] else Text.splitAt '\n' text)
  let all := known ++ named ++ listed ++ replied ++ told
  let all ← do
    match c.excluded with
    | some p => withoutExcluded p word all
    | none => pure all
  let all := all.map fun t => c.front.getD "" ++ t ++ c.back.getD ""
  let directories := Builtin.fileCandidates s true word |>.filter (·.startsWith word)
  if all.isEmpty && c.has "dirnames" then return directories
  else if c.has "plusdirs" then return all ++ directories
  else if all.isEmpty && c.has "default" then
    return (Builtin.fileCandidates s false word).filter (·.startsWith word)
  else return all

def compgen (args : List String) : Act Unit := do
  Act.setStatus 0
  Builtin.withOptions "compgen" "abcdefgjko:prsuvA:G:W:P:S:X:F:C:DEI" args fun o => do
    match ← Builtin.completion? "compgen" o with
    | none => return ()
    | some c =>
      if !o.given.isEmpty then
        if c.function.isSome then
          Act.complain "compgen: warning: -F option may not work as you expect"
        if c.command.isSome then
          Act.complain "compgen: warning: -C option may not work as you expect"
        let found ← completed inner c (o.rest.headD "")
        Act.setStatus (if found.isEmpty then 1 else 0)
        Builtin.say "compgen" (String.join (found.map (· ++ "\n")))

end

end Evaluation

end GatedPipeline.Shell
