import GatedPipeline.Shell.Dialogue

namespace GatedPipeline.Shell.Act

def opening? (descriptor : Nat) : Act (Option (Nat × Opening)) := do
  let s ← get
  return (s.descriptors.lookup descriptor).bind fun n => (s.world.openings[n]?).map (n, ·)

def newPipe (p : Pipe) : Act Nat := do
  let s ← get
  set { s with world := { s.world with pipes := s.world.pipes.push p } }
  return s.world.pipes.size

def newOpening (o : Opening) : Act Nat := do
  let s ← get
  set { s with world := { s.world with openings := s.world.openings.push o } }
  return s.world.openings.size

def direct (descriptor opening : Nat) : Act Unit :=
  modify fun s => { s with
    descriptors := (descriptor, opening) :: s.descriptors.filter (·.1 != descriptor) }

def close (descriptor : Nat) : Act Unit :=
  modify fun s => { s with descriptors := s.descriptors.filter (·.1 != descriptor) }

def openText (text : String) : Act Nat := do
  let n ← newPipe (.holding (← get).now text)
  newOpening ⟨.pipe n, 0, false, true, false⟩

def keptLines (text : String) : List String :=
  let parts := Text.splitAt '\n' text
  parts.dropLast.map (· ++ "\n") ++ (match parts.getLast? with
    | some "" => []
    | some t => [t]
    | none => [])

/-- As many zero bytes as are ever asked for. -/
def manyZeros : String := String.ofList (List.replicate (Nat.pow 2 20) '\x00')

/-- All that is left in a descriptor, with the times at which it comes, and when the end is seen. -/
def remaining (descriptor : Nat) : Act (Except String (List Chunk × Nat)) := do
  let s ← get
  match ← opening? descriptor with
  | none => return .error "Bad file descriptor"
  | some (_, o) =>
    if !o.reads then return .error "Bad file descriptor"
    else
      match o.target with
      | .pipe n =>
        if s.world.dialogues.any (·.output == n) then hear
        let p := ((← get).world.pipes[n]?).getD .empty
        return .ok (p.chunks, p.heldUntil)
      | .file path =>
        let content := (s.world.files.content? path).getD ""
        let text := String.ofList (content.toList.drop o.offset)
        return .ok (if text.isEmpty then [] else [⟨s.now, text⟩], s.now)
      | .directory _ => return .error "Is a directory"
      | .nothing => return .ok ([], s.now)
      | .zeros _ => return .ok ([⟨s.now, manyZeros⟩], s.now)

def takeAll (descriptor : Nat) : Act (Except String (List Chunk)) := do
  match ← remaining descriptor with
  | .error e => return .error e
  | .ok (chunks, finish) =>
    match ← opening? descriptor with
    | some (n, o) =>
      match o.target with
      | .pipe k => modifyPipe k fun p => { p with unread := [], latest := [] }
      | _ =>
        modifyOpening n fun o => { o with
          offset := o.offset + (chunks.map (·.text.length)).foldr (· + ·) 0 }
    | none => return .ok []
    waitToRead finish
    return .ok chunks

def takeText (descriptor : Nat) : Act (Except String String) := do
  return (← takeAll descriptor).map fun cs => String.join (cs.map (·.text))

/-- Cuts chunks after the first line end, or after so many characters: what comes first, and the
rest. -/
def cutAfter (delimiter : Char) (most : Option Nat) :
    Nat → List String → List Chunk → Option Nat → String × Bool × Option Nat × List Chunk
  | 0, acc, cs, time => (String.join acc.reverse, false, time, cs)
  | _ + 1, acc, [], time => (String.join acc.reverse, false, time, [])
  | n + 1, acc, c :: cs, time =>
    let left := most.map (· - (acc.map String.length).foldr (· + ·) 0)
    if left == some 0 then (String.join acc.reverse, false, time, c :: cs)
    else
      let text := c.text.toList
      let front := text.takeWhile (· != delimiter)
      let front := (left.map front.take).getD front
      let after := text.drop front.length
      if after.head? == some delimiter && left.all (front.length < ·) then
        let rest := after.drop 1
        (String.join (String.ofList front :: acc).reverse, true, some c.time,
          if rest.isEmpty then cs else ⟨c.time, String.ofList rest⟩ :: cs)
      else if after.isEmpty then
        cutAfter delimiter most n (String.ofList front :: acc) cs (some c.time)
      else (String.join (String.ofList front :: acc).reverse, false, some c.time,
        ⟨c.time, String.ofList after⟩ :: cs)

/-- What is found in place of a delimiter where there is to be none: no byte is so large. -/
def noDelimiter : Char := Char.ofNat 0x10FFFF

inductive ReadEnd where
  | full
  | finished
  | late
deriving DecidableEq, Repr

/-- Takes characters up to a delimiter, but no more than a number of them, and only those that come
in time. -/
def takeLineBy (deadline : Option Nat) (descriptor : Nat) (delimiter : Char) (most : Option Nat) :
    Act (Except String (String × ReadEnd)) := do
  match ← remaining descriptor with
  | .error e => return .error e
  | .ok (chunks, finish) =>
    let chunks : List Chunk :=
      match chunks with
      | c :: cs =>
        if delimiter == '\n' && c.text.length > 200 then
          (keptLines c.text).map (⟨c.time, ·⟩) ++ cs
        else chunks
      | [] => []
    let isEarly (c : Chunk) : Bool := deadline.all (c.time ≤ ·)
    let early := chunks.filter isEarly
    let (text, found, time, rest) := cutAfter delimiter most (early.length + 1) [] early none
    let isFull := found || most == some text.length
    let isLate := !isFull && deadline.any (· < finish)
    match ← opening? descriptor with
    | some (n, o) =>
      match o.target with
      | .pipe k =>
        modifyPipe k fun p => { p with
          unread := rest ++ chunks.filter (!isEarly ·), latest := [] }
        /- Between what a command says to another one and its answer there is some time. -/
        let lag := if (← get).world.dialogues.any (·.output == k) then 1 else 0
        waitToRead (if isFull then time.getD 0 + lag
          else if isLate then deadline.getD 0 else finish)
      | _ => modifyOpening n fun o => { o with
          offset := o.offset + text.length + if found then 1 else 0 }
      return .ok (text, if isFull then .full else if isLate then .late else .finished)
    | none => return .ok ("", .finished)

/-- Takes characters up to a delimiter, but no more than a number of them; tells whether the
delimiter is there. -/
def takeLine (descriptor : Nat) (delimiter : Char) (most : Option Nat) :
    Act (Except String (String × Bool)) := do
  return (← takeLineBy none descriptor delimiter most).map fun r => (r.1, r.2 == .full)

end GatedPipeline.Shell.Act
