import GatedPipeline.Shell.Expansion

namespace GatedPipeline.Shell

namespace Tracing

section

variable (substitute : Substitution → Act String)

/-- The mark. Nothing is told of what is done for it, and it leaves the status as it is. -/
def mark : Act String := do
  let s ← get
  let written := (s.value? "PS4").getD ""
  if written.any "$\\\x60".toList.contains then
    modify fun t => { t with options := t.options.erase "xtrace" }
    let expanded ←
      if s.isStrict then
        try Expansion.document substitute written
        catch e =>
          match e with
          | .leaving => pure written
          | .discarding => pure written
          | e => throw e
      else Expansion.prompt substitute written
    modify fun t => { t with
      options := s.options, status := s.status, innerStatus := s.innerStatus }
    return expanded
  else return written

def tell (text : String) : Act Unit := do
  let s ← get
  if s.hasOption "xtrace" then
    let mark ← mark substitute
    let first := String.ofList (mark.toList.take 1)
    let chosen := if s.isStrict then none else (s.value? "BASH_XTRACEFD").bind String.toNat?
    Act.put (chosen.getD 2)
      (String.join (List.replicate s.traceDepth first) ++ mark ++ text ++ "\n")

end

def assignment (k : Charset) (name : String) (appends : Bool) (value : String) : String :=
  name ++ (if appends then "+=" else "=") ++ if value.isEmpty then "" else Quoting.traced k value

/-- An assignment of elements as it is told. -/
def elements (name : String) (appends : Bool) (items : List Element) : String :=
  name ++ (if appends then "+=" else "=") ++ "(" ++
    " ".intercalate (items.map fun e =>
      (match e.subscript with
        | some k => "[" ++ Quoting.single k ++ "]" ++ (if e.appends then "+=" else "=")
        | none => "") ++ Quoting.single e.value) ++ ")"

end Tracing

end GatedPipeline.Shell
