import GatedPipeline.Shell.Program.Basic

namespace GatedPipeline.Shell.Program

inductive PatternKind where
  | basic
  | extended
  | fixed
deriving DecidableEq, Repr

def expression (rules basic : Regex.Rules) (kind : PatternKind) (text : List Char) :
    Except Regex.Fault (Regex × Nat) :=
  match kind with
  | .basic => Regex.read basic (Regex.ofBasic true text)
  | .extended => Regex.read rules (text.map (·, false))
  | .fixed => Regex.read rules (text.map (·, true))

/-- The signs for repetition that have nothing before them to repeat. -/
def emptyRepeats (isStart : Bool) : List Char → List Char
  | [] => []
  | '\\' :: _ :: cs => emptyRepeats false cs
  | '[' :: cs =>
    let inside := Regex.bracket cs
    have := Regex.length_bracket_le cs
    emptyRepeats false inside.2
  | c :: cs =>
    if isStart && "*+?".toList.contains c then c :: emptyRepeats true cs
    else emptyRepeats ("(|^".toList.contains c) cs
termination_by s => s.length
decreasing_by all_goals simp_wf; all_goals omega

/-- All places where an expression matches, as starts and ends counted from the left. -/
def allMatches (r : Regex) (k : Comparison) (text : List Char) :
    Nat → Option Char → List Char → List (Nat × Nat × Regex.Match)
  | 0, _, _ => []
  | n + 1, before, rest =>
    match Regex.search ⟨text, k⟩ r before rest with
    | none => []
    | some m =>
      let start := text.length - m.start
      let finish := text.length - m.finish
      let next := if finish > start then finish else finish + 1
      (start, finish, m) ::
        if next > text.length then []
        else allMatches r k text n ((text.take next).getLast?) (text.drop next)

structure Sought where
  expressions : List Regex
  comparison : Comparison
  wholeLines : Bool
  wholeWords : Bool

def Sought.places (w : Sought) (line : String) : List (Nat × Nat) :=
  let k := w.comparison.charset
  let cs := k.units line.toList
  let found := w.expressions.flatMap fun r =>
    (allMatches r w.comparison cs (cs.length + 2) none cs).map fun m => (m.1, m.2.1)
  let isWhole (r : Regex) : Bool :=
    (Regex.find? (.sequence [.lineStart, r, .lineEnd]) w.comparison cs).isSome
  let inWord (c : Char) : Bool := k.inClass "word" c
  let found :=
    if w.wholeLines then (if w.expressions.any isWhole then [(0, cs.length)] else [])
    else if w.wholeWords then
      found.filter fun p =>
        !((cs.take p.1).getLast?).any inWord && !((cs.drop p.2).head?).any inWord
    else found
  /- The places are told in bytes. -/
  let place (n : Nat) : Nat := if k == .bytes then n else (k.text (cs.take n)).length
  let found := found.map fun p => (place p.1, place p.2)
  found.mergeSort fun a b => a.1 < b.1 || (a.1 == b.1 && b.2 ≤ a.2)

def withContext (before after : Nat) (hits : List Bool) : List Bool :=
  let n := hits.length
  (List.range n).map fun i =>
    (List.range (before + after + 1)).any fun d =>
      i + before ≥ d && ((hits[i + before - d]?).getD false)

def grep (name : String) (args : List String) : Act Unit := do
  let words := [("quiet", 'q'), ("silent", 'q'), ("invert-match", 'v'), ("count", 'c'),
    ("ignore-case", 'i'), ("line-number", 'n'), ("line-regexp", 'x'), ("word-regexp", 'w'),
    ("only-matching", 'o'), ("extended-regexp", 'E'), ("fixed-strings", 'F'), ("regexp", 'e'),
    ("files-with-matches", 'l'), ("files-without-match", 'L'), ("max-count", 'm'),
    ("no-messages", 's'), ("after-context", 'A'), ("before-context", 'B'), ("context", 'C'),
    ("no-filename", 'h'), ("with-filename", 'H'), ("recursive", 'r')]
  let usage : Act Unit := do
    Act.put 2 ("Usage: " ++ name ++ " [OPTION]... PATTERNS [FILE]...\n" ++
      "Try '" ++ name ++ " --help' for more information.\n")
    Act.setStatus 2
  let known : Usage := ⟨name, "qvcinxwoEFGPe:lLhHsm:A:B:C:rRayz", words, 2⟩
  match readOptions known (args.length + 1) [] [] args with
  | .error e =>
    Act.put 2 (name ++ ": " ++ e ++ "\n")
    usage
  | .ok o =>
    let given := (o.given.filter (·.1 == 'e')).map (·.2)
    let (patterns, operands) :=
      match given, o.rest with
      | [], p :: rest => ([p], rest)
      | ps, rest => (ps, rest)
    if patterns.isEmpty then usage
    else
      let kind : PatternKind :=
        if o.has 'F' || name = "fgrep" then .fixed
        else if o.has 'E' || o.has 'P' || name = "egrep" then .extended
        else .basic
      let k := (← get).programCharset
      let texts := (patterns.flatMap (Text.splitAt '\n')).map fun p => k.units p.toList
      if kind == .extended then
        texts.forM fun p => (emptyRepeats true p).forM fun c =>
          Act.put 2 (name ++ ": warning: " ++ String.singleton c ++ " at start of expression\n")
      match texts.mapM (expression .lenient .lenientBasic kind) with
      | .error f => fail name f.message 2
      | .ok expressions =>
        let sought : Sought := ⟨expressions.map (·.1),
          ⟨o.has 'i' || o.has 'y', k⟩, o.has 'x', o.has 'w'⟩
        let s ← get
        let isDeep := o.has 'r' || o.has 'R'
        let operands := if operands.isEmpty then (if isDeep then [""] else ["-"]) else operands
        let rec below : Nat → String → List String
          | 0, _ => []
          | n + 1, path =>
            if path.isEmpty || Testing.kind? s path == some .directory then
              (s.world.files.list (Path.resolve s.directory path)).flatMap fun m =>
                below n (if path.isEmpty then m else path ++ "/" ++ m)
            else [path]
        let files := if isDeep then operands.flatMap (below 50) else operands
        let showsName := (files.length > 1 || isDeep || o.has 'H') && !o.has 'h'
        let number (c : Char) : Option Nat := (o.argument? c).bind String.toNat?
        let before := ((number 'B').or (number 'C')).getD 0
        let after := ((number 'A').or (number 'C')).getD 0
        let results ← files.mapM fun path => do
          match ← readOperand path with
          | .error e =>
            if !o.has 's' then fail name (path ++ ": " ++ e) 2
            return (false, true)
          | .ok text =>
            let ls := Text.lines text
            let hits := ls.map fun l => (!(sought.places l).isEmpty) != o.has 'v'
            let hits :=
              match number 'm' with
              | some most =>
                (hits.foldl (fun (acc : List Bool × Nat) h =>
                  if h && acc.2 > 0 then (true :: acc.1, acc.2 - 1) else (false :: acc.1, acc.2))
                  ([], most)).1.reverse
              | none => hits
            let count := (hits.filter id).length
            let shownPath := if path = "-" then "(standard input)" else path
            let front (i : Nat) (mark : String) : String :=
              (if showsName then shownPath ++ mark else "") ++
                (if o.has 'n' then toString (i + 1) ++ mark else "")
            if o.has 'q' then pure ()
            else if o.has 'l' then
              if count > 0 then say (shownPath ++ "\n")
            else if o.has 'L' then
              if count == 0 then say (shownPath ++ "\n")
            else if o.has 'c' then
              say ((if showsName then shownPath ++ ":" else "") ++ toString count ++ "\n")
            else if o.has 'o' then
              if !o.has 'v' then
                say (String.join ((List.zip ls hits).mapIdx fun i p =>
                  if p.2 then
                    ((sought.places p.1).foldl (fun (acc : String × Nat) m =>
                      if m.2 > m.1 && m.1 ≥ acc.2 then
                        (acc.1 ++ front i ":" ++
                          String.ofList ((p.1.toList.drop m.1).take (m.2 - m.1)) ++ "\n", m.2)
                      else acc) ("", 0)).1
                  else ""))
            else
              let shown := withContext before after hits
              let numbered := (List.zip ls (List.zip hits shown)).mapIdx fun i p => (i, p)
              let (out, _) := numbered.foldl
                (fun (acc : List String × Option Nat) x =>
                  if x.2.2.2 then
                    let gap := (before + after > 0) && acc.2.any fun j => j + 1 < x.1
                    ((front x.1 (if x.2.2.1 then ":" else "-") ++ x.2.1 ++ "\n") ::
                      (if gap then "--\n" :: acc.1 else acc.1), some x.1)
                  else acc) ([], none)
              say (String.join out.reverse)
            return (count > 0, false)
        let found := results.any (·.1)
        let wrong := results.any (·.2)
        Act.setStatus (if found && (o.has 'q' || !wrong) then 0 else if wrong then 2 else 1)

/-- Where a command of `sed` is carried out. -/
inductive Address where
  | line (n : Nat)
  | last
  | pattern (r : Regex)
  | every (first step : Nat)
  | following (n : Nat)

inductive Edit where
  | substitute (r : Regex) (groups : Nat) (replacement : List Char)
      (isEverywhere isPrinted ignoresCase : Bool)
      (which : Nat)
  | translate (source target : List Char)
  | print
  | printFirst
  | delete
  | deleteFirst
  | quit (isSilent : Bool) (status : Nat)
  | number
  | next
  | join
  | append (text : String)
  | insert (text : String)
  | change (text : String)
  | hold
  | holdMore
  | fetch
  | fetchMore
  | exchange
  | group (edits : List (Option Address × Option Address × Bool × Edit))

/-- A command with the addresses for which it is meant, or not meant. -/
abbrev Addressed := Option Address × Option Address × Bool × Edit

namespace Sed

/-- A text up to a delimiter that is not escaped, and not in a bracket if that counts. -/
def upTo (delimiter : Char) (brackets : Bool) :
    Nat → List Char → List Char → Option (List Char × List Char)
  | 0, _, _ => none
  | _ + 1, _, [] => none
  | n + 1, acc, '\\' :: c :: cs =>
    if c == delimiter then upTo delimiter brackets n (c :: acc) cs
    else upTo delimiter brackets n (c :: '\\' :: acc) cs
  | n + 1, acc, c :: cs =>
    if c == delimiter then some (acc.reverse, cs)
    else if c == '[' && brackets then
      let inside := Regex.bracket cs
      upTo delimiter brackets n (inside.1.reverse ++ c :: acc) inside.2
    else upTo delimiter brackets n (c :: acc) cs

def address? (kind : PatternKind) (cs : List Char) : Except String (Option Address × List Char) :=
  match cs with
  | '$' :: rest => .ok (some .last, rest)
  | '/' :: rest =>
    match upTo '/' true (rest.length + 1) [] rest with
    | some (re, rest) =>
      match expression .strict .strictBasic kind re with
      | .ok (r, _) => .ok (some (.pattern r), rest)
      | .error f => .error f.message
    | none => .error "unterminated address regex"
  | c :: _ =>
    if c.isDigit then
      let ds := cs.takeWhile Char.isDigit
      let n := ((String.ofList ds).toNat?).getD 0
      match cs.drop ds.length with
      | '~' :: rest =>
        let ss := rest.takeWhile Char.isDigit
        .ok (some (.every n (((String.ofList ss).toNat?).getD 0)), rest.drop ss.length)
      | rest => .ok (some (.line n), rest)
    else .ok (none, cs)
  | [] => .ok (none, [])

def blank (c : Char) : Bool := c == ' ' || c == '\t'

def addedText (cs : List Char) : String × List Char :=
  let cs := cs.dropWhile blank
  let cs :=
    match cs with
    | '\\' :: rest =>
      let rest := rest.dropWhile blank
      if rest.head? == some '\n' then rest.drop 1 else rest
    | _ => cs
  let line := cs.takeWhile (· != '\n')
  (String.ofList (line.filter (· != '\\')) ++ "\n", cs.drop line.length)

def parse (kind : PatternKind) : Nat → List Char → List Addressed →
    Except String (List Addressed × List Char)
  | 0, _, _ => .error "unexpected end"
  | n + 1, cs, acc =>
    let cs := cs.dropWhile fun c => blank c || c == ';' || c == '\n'
    match cs with
    | [] => .ok (acc.reverse, [])
    | '#' :: rest => parse kind n (rest.dropWhile (· != '\n')) acc
    | '}' :: rest => .ok (acc.reverse, '}' :: rest)
    | _ => do
      let (first, cs) ← address? kind cs
      let cs := cs.dropWhile blank
      let (second, cs) ← (
        match first, cs with
        | some _, ',' :: rest =>
          let rest := rest.dropWhile blank
          match rest with
          | '+' :: more =>
            let ds := more.takeWhile Char.isDigit
            .ok (some (Address.following (((String.ofList ds).toNat?).getD 0)), more.drop ds.length)
          | _ => do
            let (a, rest) ← address? kind rest
            if a.isNone then .error "unexpected \x60,'" else .ok (a, rest)
        | _, _ => .ok (none, cs))
      let cs := cs.dropWhile blank
      let isNegated := cs.head? == some '!'
      let cs := (if isNegated then cs.drop 1 else cs).dropWhile blank
      let add (e : Edit) (rest : List Char) : Except String (List Addressed × List Char) :=
        parse kind n rest ((first, second, isNegated, e) :: acc)
      /- Only a few things may follow a command. -/
      let ended (e : Edit) (rest : List Char) : Except String (List Addressed × List Char) :=
        let rest := rest.dropWhile blank
        match rest with
        | [] => add e []
        | c :: _ =>
          if c == ';' || c == '\n' || c == '}' || c == '#' then add e rest
          else .error "extra characters after command"
      match cs with
      | [] => .error "missing command"
      | c :: rest =>
        match c with
        | '{' =>
          match parse kind n rest [] with
          | .ok (inner, '}' :: rest) => ended (.group inner) rest
          | .ok _ => .error "unmatched \x60\x7b'"
          | .error e => .error e
        | 's' =>
          match rest with
          | [] => .error "unterminated \x60s' command"
          | d :: rest =>
            match upTo d true (rest.length + 1) [] rest with
            | none => .error "unterminated \x60s' command"
            | some (re, rest) =>
              match upTo d false (rest.length + 1) [] rest with
              | none => .error "unterminated \x60s' command"
              | some (replacement, rest) =>
                let flags := rest.takeWhile fun c => "gpiIem".toList.contains c || c.isDigit
                let rest := rest.drop flags.length
                match expression .strict .strictBasic kind re with
                | .error f => .error f.message
                | .ok (r, groups) =>
                  if rest.head?.any fun c => !(blank c || ";\n\x7d#".toList.contains c) then
                    .error "unknown option to \x60s'"
                  else
                    let which := ((String.ofList (flags.filter Char.isDigit)).toNat?).getD 1
                    let ignoresCase := flags.contains 'i' || flags.contains 'I'
                    ended (.substitute r groups replacement (flags.contains 'g')
                      (flags.contains 'p') ignoresCase which) rest
        | 'y' =>
          match rest with
          | [] => .error "unterminated \x60y' command"
          | d :: rest =>
            match upTo d false (rest.length + 1) [] rest with
            | none => .error "unterminated \x60y' command"
            | some (a, rest) =>
              match upTo d false (rest.length + 1) [] rest with
              | none => .error "unterminated \x60y' command"
              | some (b, rest) =>
                if a.length != b.length then
                  .error "strings for \x60y' command are different lengths"
                else ended (.translate a b) rest
        | 'p' => ended .print rest
        | 'P' => ended .printFirst rest
        | 'd' => ended .delete rest
        | 'D' => ended .deleteFirst rest
        | '=' => ended .number rest
        | 'n' => ended .next rest
        | 'N' => ended .join rest
        | 'h' => ended .hold rest
        | 'H' => ended .holdMore rest
        | 'g' => ended .fetch rest
        | 'G' => ended .fetchMore rest
        | 'x' => ended .exchange rest
        | 'q' => quits false rest ended
        | 'Q' => quits true rest ended
        | 'a' =>
          let (t, rest) := addedText rest
          add (.append t) rest
        | 'i' =>
          let (t, rest) := addedText rest
          add (.insert t) rest
        | 'c' =>
          let (t, rest) := addedText rest
          add (.change t) rest
        | _ => .error ("unknown command: \x60" ++ String.singleton c ++ "'")
where
  quits (isSilent : Bool) (rest : List Char)
      (ended : Edit → List Char → Except String (List Addressed × List Char)) :
      Except String (List Addressed × List Char) :=
    let rest := rest.dropWhile blank
    let ds := rest.takeWhile Char.isDigit
    ended (.quit isSilent (((String.ofList ds).toNat?).getD 0)) (rest.drop ds.length)

structure Work where
  charset : Charset
  pattern : String
  held : String
  number : Nat
  rest : List String
  open' : List (List Nat × Option Nat)
  out : List String
  after : List String
  ends : Option Nat
  isSilentEnd : Bool
  isDeleted : Bool
  restarts : Bool

/-- What becomes of the case of what follows: of all of it, and of its first character. -/
structure Recasing where
  all : Option Bool
  first : Option Bool

/-- Characters in upper or lower case, and what is left to be done. -/
def Recasing.apply (k : Charset) (c : Recasing) (s : List Char) : List Char × Recasing :=
  let change (isUpper : Option Bool) (x : Char) : Char :=
    match isUpper with
    | some true => k.toUpper x
    | some false => k.toLower x
    | none => x
  match s with
  | [] => ([], c)
  | x :: xs => (change (c.first.or c.all) x :: xs.map (change c.all), { c with first := none })

def replaced (k : Charset) (groups : List (List Char)) (case' : Recasing) :
    Nat → List Char → List Char × Recasing
  | 0, _ => ([], case')
  | _ + 1, [] => ([], case')
  | n + 1, '\\' :: c :: cs =>
    let put (s : List Char) : List Char × Recasing :=
      let (front, case') := case'.apply k s
      let (rest, case') := replaced k groups case' n cs
      (front ++ rest, case')
    if c.isDigit then put ((groups[c.toNat - 48]?).getD [])
    else if c == 'n' then put ['\n']
    else if c == 't' then put ['\t']
    else
      match c with
      | 'U' => replaced k groups { case' with all := some true } n cs
      | 'L' => replaced k groups { case' with all := some false } n cs
      | 'E' => replaced k groups ⟨none, none⟩ n cs
      | 'u' => replaced k groups { case' with first := some true } n cs
      | 'l' => replaced k groups { case' with first := some false } n cs
      | _ => put [c]
  | n + 1, c :: cs =>
    let (front, case') := case'.apply k (if c == '&' then groups.headD [] else [c])
    let (rest, case') := replaced k groups case' n cs
    (front ++ rest, case')

def substituted (r : Regex) (groups : Nat) (replacement : List Char)
    (isEverywhere : Bool) (k : Comparison) (which : Nat) (text : String) : Option String :=
  let cs := text.toList
  let found := allMatches r k cs (cs.length + 2) none cs
  let found := (found.foldl (fun (acc : List (Nat × Nat × Regex.Match)) m =>
    match acc with
    | p :: _ => if m.1 == m.2.1 && m.1 == p.2.1 then acc else m :: acc
    | [] => [m]) []).reverse
  let found := (found.drop (which - 1)).take (if isEverywhere then found.length else 1)
  if found.isEmpty then none
  else
    let (out, at') := found.foldl (fun (acc : List Char × Nat) m =>
      let texts := Regex.texts ⟨cs, k⟩ m.2.2 groups
      (acc.1 ++ (cs.drop acc.2).take (m.1 - acc.2) ++
        (replaced k.charset texts ⟨none, none⟩ (replacement.length + 1) replacement).1,
        m.2.1)) ([], 0)
    some (String.ofList (out ++ cs.drop at'))

def fits (w : Work) : Address → Bool
  | .line n => w.number == n
  | .last => w.rest.isEmpty
  | .pattern r => (Regex.find? r ⟨false, w.charset⟩ w.pattern.toList).isSome
  | .every first step =>
    if step == 0 then w.number == first else w.number ≥ first && (w.number - first) % step == 0
  | .following _ => false

/-- Whether a command is meant for the current line, with the ranges that are open after it. -/
def chosen (w : Work) (place : List Nat) (first second : Option Address) : Bool × Work :=
  match first, second with
  | none, _ => (true, w)
  | some a, none => (fits w a, w)
  | some a, some b =>
    let close : Work := { w with open' := w.open'.filter (·.1 != place) }
    match w.open'.find? (·.1 == place) with
    | some (_, some finish) => (true, if w.number ≥ finish then close else w)
    | some (_, none) => (true, if fits w b then close else w)
    | none =>
      if fits w a then
        match b with
        | .line n =>
          (true, if n ≤ w.number then w else { w with open' := (place, some n) :: w.open' })
        | .following n =>
          (true, if n == 0 then w else { w with open' := (place, some (w.number + n)) :: w.open' })
        | _ => (true, { w with open' := (place, none) :: w.open' })
      else (false, w)

def firstLine (s : String) : String := String.ofList (s.toList.takeWhile (· != '\n'))

def run (quiet : Bool) : Nat → List Nat → List (Nat × Addressed) → Work → Work
  | 0, _, _, w => w
  | _ + 1, _, [], w => w
  | n + 1, front, (i, first, second, isNegated, e) :: rest, w =>
    let place := i :: front
    let (isChosen, w) := chosen w place first second
    if isChosen == isNegated then run quiet n front rest w
    else
      let put (t : String) (w : Work) : Work := { w with out := t :: w.out }
      let on (w : Work) : Work := run quiet n front rest w
      match e with
      | .substitute r groups replacement isEverywhere isPrinted ignoresCase which =>
        match substituted r groups replacement isEverywhere ⟨ignoresCase, w.charset⟩ which
            w.pattern with
        | some t =>
          let w := { w with pattern := t }
          on (if isPrinted then put (t ++ "\n") w else w)
        | none => on w
      | .translate a b =>
        on { w with pattern := String.ofList (w.pattern.toList.map fun c =>
          match a.findIdx? (· == c) with
          | some i => (b[i]?).getD c
          | none => c) }
      | .print => on (put (w.pattern ++ "\n") w)
      | .printFirst => on (put (firstLine w.pattern ++ "\n") w)
      | .delete => { w with isDeleted := true }
      | .deleteFirst =>
        if w.pattern.contains '\n' then
          { w with
            pattern := String.ofList (w.pattern.toList.drop ((firstLine w.pattern).length + 1))
            isDeleted := true, restarts := true }
        else { w with isDeleted := true }
      | .quit isSilent status => { w with ends := some status, isSilentEnd := isSilent }
      | .number => on (put (toString w.number ++ "\n") w)
      | .next =>
        match w.rest with
        | l :: more =>
          let w := if quiet then w else put (w.pattern ++ "\n") w
          let w := { w with out := w.after ++ w.out, after := [] }
          on { w with pattern := l, rest := more, number := w.number + 1 }
        | [] => { w with ends := some 0 }
      | .join =>
        match w.rest with
        | l :: more =>
          on { w with
            pattern := w.pattern ++ "\n" ++ l, rest := more, number := w.number + 1 }
        | [] => { w with ends := some 0 }
      | .append t => on { w with after := t :: w.after }
      | .insert t => on (put t w)
      | .change t =>
        let isLast := second.isNone || isNegated || !(w.open'.any (·.1 == place))
        { (if isLast then put t w else w) with isDeleted := true }
      | .hold => on { w with held := w.pattern }
      | .holdMore => on { w with held := w.held ++ "\n" ++ w.pattern }
      | .fetch => on { w with pattern := w.held }
      | .fetchMore => on { w with pattern := w.pattern ++ "\n" ++ w.held }
      | .exchange => on { w with pattern := w.held, held := w.pattern }
      | .group inner =>
        let w := run quiet n place (inner.mapIdx fun j c => (j, c)) w
        if w.isDeleted || w.ends.isSome then w else on w

def cycle (quiet : Bool) (script : List (Nat × Addressed)) : Nat → Work → Work
  | 0, w => w
  | n + 1, w =>
    let start : Option Work :=
      if w.restarts then some { w with restarts := false }
      else
        match w.rest with
        | l :: more => some { w with pattern := l, rest := more, number := w.number + 1 }
        | [] => none
    match start with
    | none => w
    | some w =>
      let w := run quiet (script.length * 50 + 1000) [] script { w with isDeleted := false }
      let w := if w.isDeleted || quiet || w.isSilentEnd then w
        else { w with out := (w.pattern ++ "\n") :: w.out }
      let w := { w with out := w.after ++ w.out, after := [] }
      if w.ends.isSome then w else cycle quiet script n w

end Sed

def sed (args : List String) : Act Unit := do
  let words := [("quiet", 'n'), ("silent", 'n'), ("expression", 'e'), ("regexp-extended", 'E'),
    ("in-place", 'i')]
  withOptions ⟨"sed", "ne:Ersi", words, 1⟩ args fun o => do
    let given := (o.given.filter (·.1 == 'e')).map (·.2)
    let (script, operands) :=
      match given, o.rest with
      | [], p :: rest => (p, rest)
      | ps, rest => ("\n".intercalate ps, rest)
    if given.isEmpty && o.rest.isEmpty then
      Act.put 2 "Usage: sed [OPTION]... \x7bscript-only-if-no-other-script\x7d [input-file]...\n"
      Act.setStatus 1
    else
      let kind : PatternKind := if o.has 'E' || o.has 'r' then .extended else .basic
      let k := (← get).programCharset
      let script := String.ofList (k.units script.toList)
      match Sed.parse kind (script.length + 2) script.toList [] with
      | .error e =>
        if e == Regex.Fault.outsideColons.message then fail "sed" e 4
        else fail "sed" ("-e expression #1, char " ++ toString script.length ++ ": " ++ e) 1
      | .ok (_, c :: _) =>
        fail "sed" ("-e expression #1, char " ++ toString script.length ++ ": unexpected \x60" ++
          String.singleton c ++ "'") 1
      | .ok (edits, []) =>
        let numbered := edits.mapIdx fun i e => (i, e)
        let go (text : String) : Sed.Work :=
          let ls := (Text.lines text).map fun l => String.ofList (k.units l.toList)
          let w := Sed.cycle (o.has 'n') numbered (10 * ls.length + 10)
            ⟨k, "", "", 0, ls, [], [], [], none, false, false, false⟩
          let out := String.ofList (k.text (String.join w.out.reverse).toList)
          if !text.isEmpty && !text.endsWith "\n" && out.endsWith "\n" && w.rest.isEmpty then
            { w with out := [String.ofList out.toList.dropLast] }
          else { w with out := [out] }
        if o.has 'i' then
          operands.forM fun path => do
            match ← readOperand path with
            | .error e => fail "sed" ("can't read " ++ path ++ ": " ++ e) 2
            | .ok text =>
              let s ← get
              let out := String.join (go text).out
              modify fun s' => { s' with world := { s'.world with
                files := s'.world.files.write (Path.resolve s.directory path) out } }
        else
          let operands := if operands.isEmpty then ["-"] else operands
          let texts ← operands.mapM fun path => do
            match ← readOperand path with
            | .error e =>
              if e == FileFault.isDirectory.reason then
                fail "sed" ("couldn't edit " ++ path ++ ": not a regular file") 2
              else fail "sed" ("can't read " ++ path ++ ": " ++ e) 2
              return ""
            | .ok text => return text
          let status ← Act.status
          let w := go (String.join texts)
          say (String.join w.out)
          Act.setStatus (match w.ends with
            | some n => if n == 0 then status else n
            | none => status)

end GatedPipeline.Shell.Program
