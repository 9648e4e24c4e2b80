import GatedPipeline.Shell.Program.Comparing
import GatedPipeline.Shell.Program.Encoding
import GatedPipeline.Shell.Program.FileTree
import GatedPipeline.Shell.Program.Lines
import GatedPipeline.Shell.Program.Listing
import GatedPipeline.Shell.Program.Matching
import GatedPipeline.Shell.Program.Numbers
import GatedPipeline.Shell.Program.Sequence
import GatedPipeline.Shell.Search

namespace GatedPipeline.Shell.Program

def printenv (args : List String) : Act Unit := do
  withOptions ⟨"printenv", "0", [("null", '0')], 2⟩ args fun o => do
    let environment := (← get).environment
    if o.rest.isEmpty then say (unlines (environment.map fun v => v.1 ++ "=" ++ v.2))
    else
      o.rest.forM fun name => do
        match environment.lookup name with
        | some v => say (v ++ "\n")
        | none => Act.setStatus 1

def which (args : List String) : Act Unit := do
  withOptions ⟨"which", "as", [], 2⟩ args fun o => do
    let s ← get
    if o.rest.isEmpty then Act.setStatus 1
    o.rest.forM fun name => do
      let all := s.places name
      if all.isEmpty then Act.setStatus 1
      else say (unlines (if o.has 'a' then all else all.take 1))

def uname (args : List String) : Act Unit := do
  withOptions ⟨"uname", "asnrvmpio", [], 1⟩ args fun o => do
    let parts := [('s', "Linux"), ('n', "localhost"), ('m', "x86_64"), ('o', "GNU/Linux")]
    let shown := if o.has 'a' then parts
      else if o.given.isEmpty then parts.take 1
      else parts.filter fun p => o.has p.1
    say (" ".intercalate (shown.map (·.2)) ++ "\n")

def id (args : List String) : Act Unit := do
  withOptions ⟨"id", "ugnrG", [("user", 'u'), ("group", 'g'), ("name", 'n')], 1⟩ args fun o => do
    if o.has 'u' || o.has 'g' || o.has 'G' then say (if o.has 'n' then "root\n" else "0\n")
    else say "uid=0(root) gid=0(root) groups=0(root)\n"

def echo (args : List String) : Act Unit := do
  say (Format.echo .bytes false false args)
  Act.setStatus 0

def printf (args : List String) : Act Unit := do
  match Builtin.operands args with
  | [] => refuse "printf" "missing operand" 1
  | template :: args =>
    let (text, faults, status) := Format.format .bytes false ⟨"", 0, 0⟩ template args
    say text
    faults.forM fun f => Act.put 2 ("printf: " ++ f ++ "\n")
    Act.setStatus status

def pwd (_ : List String) : Act Unit := do
  say ((← get).directory ++ "\n")
  Act.setStatus 0

def test (name : String) (args : List String) : Act Unit := do
  let s ← get
  let operands :=
    if name = "[" then (if args.getLast? == some "]" then some args.dropLast else none)
    else some args
  match operands with
  | none => fail name "missing ']'" 2
  | some operands =>
    match Testing.ofOperands s operands with
    | .ok b => Act.setStatus (if b then 0 else 1)
    | .error e => fail name e 2

def named? (name : String) : Option (List String → Act Unit) :=
  match name with
  | "true" => some fun _ => Act.setStatus 0
  | "false" => some fun _ => Act.setStatus 1
  | "echo" => some echo
  | "printf" => some printf
  | "pwd" => some pwd
  | "test" => some (test "test")
  | "[" => some (test "[")
  | "seq" => some seq
  | "sleep" => some sleep
  | "expr" => some expr
  | "yes" => some yes
  | "cat" => some cat
  | "head" => some head
  | "tail" => some tail
  | "tac" => some tac
  | "rev" => some rev
  | "wc" => some wc
  | "sort" => some sort
  | "uniq" => some uniq
  | "tr" => some tr
  | "cut" => some cut
  | "tee" => some tee
  | "nl" => some nl
  | "paste" => some paste
  | "fold" => some fold
  | "grep" => some (grep "grep")
  | "egrep" => some (grep "egrep")
  | "fgrep" => some (grep "fgrep")
  | "sed" => some sed
  | "ls" => some ls
  | "mkdir" => some mkdir
  | "rmdir" => some rmdir
  | "rm" => some rm
  | "touch" => some touch
  | "cp" => some cp
  | "mv" => some mv
  | "chmod" => some chmod
  | "basename" => some basename
  | "dirname" => some dirname
  | "realpath" => some (realpath "realpath")
  | "readlink" => some (realpath "readlink")
  | "mktemp" => some mktemp
  | "diff" => some diff
  | "cmp" => some cmp
  | "base64" => some base64
  | "od" => some od
  | "printenv" => some printenv
  | "which" => some which
  | "uname" => some uname
  | "id" => some id
  | "whoami" => some fun _ => do
    say "root\n"
    Act.setStatus 0
  | "hostname" => some fun _ => do
    say "localhost\n"
    Act.setStatus 0
  | "nproc" => some fun _ => do
    say "1\n"
    Act.setStatus 0
  | _ => none

end GatedPipeline.Shell.Program
