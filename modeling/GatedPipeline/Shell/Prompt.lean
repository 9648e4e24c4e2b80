import GatedPipeline.Shell.State

namespace GatedPipeline.Shell.Prompt

def guarded (s : State) (text : String) : List Char :=
  if s.hasExtra "promptvars" then
    text.toList.flatMap fun c => if "$\"\\\x60".toList.contains c then ['\\', c] else [c]
  else text.toList

/-- A path as it is shown: the home directory is a tilde. -/
def politePath (s : State) : String :=
  let home := s.setting "HOME"
  if home.length < 2 then s.directory
  else if s.directory = home then "~"
  else if s.directory.startsWith (home ++ "/") then
    "~" ++ String.ofList (s.directory.toList.drop home.length)
  else s.directory

/-- Where the shell is, without the directories around. -/
def lastName (s : State) : String :=
  if s.directory = s.setting "HOME" then "~"
  else if s.directory = "/" then "/"
  else String.ofList (s.directory.toList.reverse.takeWhile (· != '/')).reverse

/-- What a letter after a backslash stands for; none if it stands for nothing. -/
def letter? (s : State) (c : Char) : Option (List Char) :=
  match c with
  | 'w' => some (guarded s (politePath s))
  | 'W' => some (guarded s (lastName s))
  | '$' => some ['#']
  | 's' => some (s.name.toList.reverse.takeWhile (· != '/')).reverse
  | 'u' => some "root".toList
  | 'v' => some "5.2".toList
  | 'V' => some "5.2.15".toList
  | 'j' => some (toString (s.jobs.filter (!·.isReaped)).length).toList
  | 'l' => some "tty".toList
  | '#' => some ['0']
  | '!' => some ['1']
  | '[' => some []
  | ']' => some []
  | _ => if "aenr\\".toList.contains c then (Quoting.letterEscape? c).map ([·]) else none

/-- A prompt without its escapes. A number has three octal digits. -/
def decoded (s : State) : List Char → List Char
  | [] => []
  | '\\' :: c :: cs =>
    let digits := ((c :: cs).take 3).takeWhile isOctal
    if digits.length == 3 then byteOf (octalNumber digits) :: decoded s (cs.drop 2)
    else if isOctal c then '\\' :: c :: decoded s cs
    else (letter? s c).getD ['\\', c] ++ decoded s cs
  | c :: cs => c :: decoded s cs
termination_by t => t.length
decreasing_by
  all_goals simp only [List.length_cons, List.length_drop]
  all_goals omega

end GatedPipeline.Shell.Prompt
