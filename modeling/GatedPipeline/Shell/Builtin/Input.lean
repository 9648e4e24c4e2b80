import GatedPipeline.Number.Decimal
import GatedPipeline.Shell.Builtin.Declaration
import GatedPipeline.Shell.Process

namespace GatedPipeline.Shell.Builtin

/-- Characters as they were read; those that a backslash was in front of part no words. -/
abbrev Line := List Marked

/-- A line without the backslashes that escape characters in it. -/
def unescaped : List Char → Line
  | '\\' :: '\n' :: cs => unescaped cs
  | '\\' :: c :: cs => (c, true) :: unescaped cs
  | ['\\'] => []
  | c :: cs => (c, false) :: unescaped cs
  | [] => []

def isSeparator (separators : List Char) (m : Marked) : Bool := !m.2 && separators.contains m.1

def isBlankSeparator (separators : List Char) (m : Marked) : Bool :=
  isSeparator separators m && isSpace m.1

/-- The first word of a line, and what follows the separators after it. -/
def firstWord (separators : List Char) (line : Line) : Line × Line :=
  let word := line.takeWhile (!isSeparator separators ·)
  let rest := (line.drop word.length).dropWhile (isBlankSeparator separators)
  match rest with
  | m :: more =>
    if isSeparator separators m then (word, more.dropWhile (isBlankSeparator separators))
    else (word, rest)
  | [] => (word, [])

/-- The words for so many variables; the last one gets what the others leave. -/
def wordsOf (separators : List Char) : Nat → Line → List String
  | 0, _ => []
  | 1, line =>
    let (word, rest) := firstWord separators line
    if rest.isEmpty then [textOf word]
    else [textOf (line.reverse.dropWhile (isBlankSeparator separators)).reverse]
  | n + 1, line =>
    let (word, rest) := firstWord separators line
    textOf word :: wordsOf separators n rest

def allWords (separators : List Char) : Nat → Line → List String
  | 0, _ => []
  | n + 1, line =>
    if line.isEmpty then []
    else
      let (word, rest) := firstWord separators line
      textOf word :: allWords separators n rest

def endsOpen (s : String) : Bool :=
  (s.toList.reverse.takeWhile (· == '\\')).length % 2 == 1

/-- Reads up to a delimiter that no backslash escapes, but no more than a number of characters, and
what comes in time. -/
def readRaw (deadline : Option Nat) (descriptor : Nat) (delimiter : Char) (escapes : Bool)
    (most : Option Nat) : Nat → String → Act (Except String (String × Act.ReadEnd))
  | 0, acc => return .ok (acc, .finished)
  | n + 1, acc => do
    let k := (← get).charset
    let left := most.map fun m => max 1 (m - k.finished acc)
    match ← Act.takeLineBy deadline descriptor delimiter left with
    | .error e => return .error e
    | .ok (text, ending) =>
      let whole := acc ++ text
      let isFull := ending == .full
      let isCut := left == some text.length
      if isFull && isCut && most.any (k.finished whole < ·) then
        readRaw deadline descriptor delimiter escapes most n whole
      else if isFull && escapes && endsOpen whole && !isCut then
        readRaw deadline descriptor delimiter escapes most n (whole.push delimiter)
      else return .ok (whole, ending)

def milliseconds? (s : String) : Option Nat :=
  match Decimal.read? (if s.isEmpty then ['0'] else s.toList) with
  | some (false, n, d, []) => some ((n * 1000 + d - 1) / d)
  | _ => none

def fill (o : Options) (names : List String) (raw : String) : Act Unit := do
  let s ← get
  let line : Line :=
    if o.has 'r' then raw.toList.map (·, false) else unescaped raw.toList
  let line := line.filter (·.1 != '\x00')
  let k := s.charset
  let line := if k == .bytes then line
    else Charset.join (fun m => some m.1) (fun c m => (c, m.2)) line
  let written (t : String) : String := String.ofList (k.text t.toList)
  let trimmed := line.dropWhile (isBlankSeparator s.separators)
  match o.argument? 'a' with
  | some name =>
    let words := allWords s.separators (line.length + 1) trimmed
    modify fun s => s.modifyVariable name fun v => { v with value := .list [] }
    let _ ← Assigning.assignElements? number name false (words.map fun w => ⟨none, false, written w⟩)
  | none =>
    match names with
    | [] => store "REPLY" (written (textOf line))
    | first :: others =>
      let values :=
        if o.has 'N' then textOf line :: others.map fun _ => ""
        else wordsOf s.separators names.length trimmed
      (List.zip (first :: others) (values ++ names.map fun _ => "")).forM fun p => do
        match Parameter.named? s.isStrict p.1.toList with
        | some (name, subscript, []) =>
          if Shell.isName name.toList then
            if s.isStrict && (s.lookup? name).any (·.attributes.isReadOnly) then
              refuse "read" (name ++ ": is read only") 2
            let _ ← Assigning.assign? number name subscript false (written p.2)
          else invalid p.1
        | _ => invalid p.1
where
  invalid (name : String) : Act Unit := do
    if ← Act.isStrict then refuse "read" (name ++ ": bad variable name") 2
    else Act.fault ("read: \x60" ++ name ++ "': not a valid identifier") 1

/-- Something can be read without waiting, be it the end. -/
def isReady (descriptor : Nat) : Act Bool := do
  let now := (← get).now
  match ← Act.remaining descriptor with
  | .error _ => return false
  | .ok (chunks, finish) => return chunks.any (·.time ≤ now) || finish ≤ now

def read (args : List String) : Act Unit := do
  let strict ← Act.isStrict
  withOptions "read" (if strict then "p:r" else "ersa:d:i:n:N:p:t:u:") args fun o => do
    let before ← get
    let wrong (reason : String) : Act Unit := Act.fault ("read: " ++ reason) 1
    let count := (o.argument? 'N').or (o.argument? 'n')
    let most := count.bind String.toNat?
    let delimiter := if o.has 'N' then '\x01' else
      ((o.argument? 'd').map fun d => (d.toList.head?).getD '\x00').getD '\n'
    let descriptor := ((o.argument? 'u').bind String.toNat?).getD 0
    let timeout := (o.argument? 't').map milliseconds?
    let firstIsBad := !strict && (o.rest.head?).any fun n =>
      match Parameter.named? false n.toList with
      | some (name, _, []) => !Shell.isName name.toList
      | _ => true
    if strict && o.rest.isEmpty then refuse "read" "arg count" 2
    else if count.isSome && most.isNone then wrong (count.getD "" ++ ": invalid number")
    else if timeout == some none then
      wrong ((o.argument? 't').getD "" ++ ": invalid timeout specification")
    else if o.has 'u' && ((o.argument? 'u').bind String.toNat?).isNone then
      wrong ((o.argument? 'u').getD "" ++ ": invalid file descriptor specification")
    else if o.has 'u' && (before.descriptors.lookup descriptor).isNone then
      wrong (toString descriptor ++ ": invalid file descriptor: Bad file descriptor")
    else if firstIsBad then fill.invalid (o.rest.headD "")
    else if most == some 0 then
      fill o o.rest ""
      Act.setStatus 0
    else if timeout == some (some 0) then
      Act.setStatus (if ← isReady descriptor then 0 else 1)
    else
      let usual := if strict then none
        else ((before.value? "TMOUT").bind milliseconds?).filter (0 < ·)
      let deadline := ((timeout.bind id).or usual).map (before.now + ·)
      match ← readRaw deadline descriptor delimiter (!o.has 'r') most 10000 "" with
      | .error e =>
        if strict then Act.setStatus 1
        else wrong ("read error: " ++ toString descriptor ++ ": " ++ e)
      | .ok (text, ending) =>
        Act.passUntil (← get).now
        Act.setStatus 0
        fill o o.rest text
        if ending == .late then Act.setStatus 142
        else if ending == .finished && (← Act.status) == 0 then Act.setStatus 1

def takeLines (descriptor : Nat) (delimiter : Char) : Nat → List String →
    Act (Except String (List String))
  | 0, acc => return .ok acc.reverse
  | n + 1, acc => do
    match ← Act.takeLine descriptor delimiter none with
    | .error e => return .error e
    | .ok (text, true) => takeLines descriptor delimiter n (text.push delimiter :: acc)
    | .ok (text, false) => return .ok (if text.isEmpty then acc else text :: acc).reverse

/-- Puts lines into a list one after another. What is done after every so many of them is given the
number and the text of the line, before it is put there. -/
def storeLines (evaluate : String → Act Unit) (array callback : String) (every : Nat) :
    Nat → Nat → List String → Act Unit
  | _, _, [] => return ()
  | count, index, line :: rest => do
    if (count + 1) % every == 0 then
      evaluate (callback ++ " " ++ toString index ++ " " ++ Quoting.single line)
    modify fun s => s.modifyVariable (Assigning.resolved s 8 array) fun v =>
      { v with value := .list (Value.insertNumbered index line v.value.elements) }
    storeLines evaluate array callback every (count + 1) (index + 1) rest

def mapfile (evaluate : String → Act Unit) (name : String) (args : List String) : Act Unit := do
  withOptions name "d:n:O:s:tu:C:c:" args fun o => do
    let wrong (reason : String) : Act Unit := Act.fault (name ++ ": " ++ reason) 1
    let number? (c : Char) (usual : Nat) : Option Nat :=
      match o.argument? c with
      | some t => t.toNat?
      | none => some usual
    let array := o.rest.headD "MAPFILE"
    let delimiter := ((o.argument? 'd').map fun d => (d.toList.head?).getD '\x00').getD '\n'
    let every := number? 'c' 5000
    if every.all (· == 0) then
      return ← wrong ((o.argument? 'c').getD "" ++ ": invalid callback quantum")
    match number? 'n' 0, number? 'O' 0, number? 's' 0, number? 'u' 0 with
    | none, _, _, _ => wrong ((o.argument? 'n').getD "" ++ ": invalid line count")
    | _, none, _, _ => wrong ((o.argument? 'O').getD "" ++ ": invalid array origin")
    | _, _, none, _ => wrong ((o.argument? 's').getD "" ++ ": invalid line count")
    | _, _, _, none =>
      wrong ((o.argument? 'u').getD "" ++ ": invalid file descriptor specification")
    | some count, some origin, some skipped, some descriptor =>
      let s ← get
      if !Shell.isName array.toList then wrong ("\x60" ++ array ++ "': not a valid identifier")
      else if (s.lookup? array).any (·.value.isTable) then
        wrong (array ++ ": not an indexed array")
      else if (s.descriptors.lookup descriptor).isNone then
        wrong (toString descriptor ++ ": invalid file descriptor: Bad file descriptor")
      else
        let most := if count = 0 then 1000000 else count + skipped
        if !(← Assigning.isWritable array) then return ()
        match ← takeLines descriptor delimiter most [] with
        | .error e => wrong ("read error: " ++ e)
        | .ok lines =>
          let lines := lines.drop skipped
          let shown (l : String) : String :=
            if o.has 't' && l.toList.getLast? == some delimiter then
              String.ofList l.toList.dropLast
            else String.ofList (l.toList.takeWhile (· != '\x00'))
          let old := if o.has 'O' then ((s.lookup? array).map (·.value.elements)).getD [] else []
          if let some callback := o.argument? 'C' then
            modify fun s => s.modifyVariable (Assigning.resolved s 8 array) fun v =>
              { v with value := .list old }
            storeLines evaluate array callback (every.getD 1) 0 origin (lines.map shown)
            return ← Act.setStatus 0
          let new := lines.mapIdx fun i l => (origin + i, shown l)
          let kept := old.filter fun e => e.1 < origin || origin + lines.length ≤ e.1
          modify fun s => s.modifyVariable (Assigning.resolved s 8 array) fun v =>
            { v with value := .list (kept.filter (·.1 < origin) ++ new ++
              kept.filter (origin ≤ ·.1)) }
          Act.setStatus 0

end GatedPipeline.Shell.Builtin
