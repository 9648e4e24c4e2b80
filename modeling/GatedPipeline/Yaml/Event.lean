import GatedPipeline.Bindings
import GatedPipeline.Yaml.Lexer

namespace GatedPipeline.Yaml

/-- An alias stands for the last event that is marked with its number anywhere in the document. -/
inductive Event where
  | scalar (tag : Option String) (style : Style) (text : String)
  | listStart (tag : Option String)
  | listEnd
  | mappingStart (tag : Option String)
  | mappingEnd
  | alias (number : Nat)
  | nothing
deriving DecidableEq, Repr

def Event.empty : Event := .scalar none .plain ""

inductive StreamFault where
  | forbidden (offset : Nat)
  | malformed (fault : SyntaxFault)
  | unknownAnchor (place : Place)
deriving DecidableEq, Repr

namespace StreamFault

def text : StreamFault → String
  | .forbidden offset =>
    "control characters are not allowed" ++
      (if offset = 0 then "" else " at position " ++ toString offset)
  | .malformed fault => fault.text
  | .unknownAnchor place => "unknown anchor" ++ place.suffix

end StreamFault

/-- The events of the first document of a text with the places at which they start, the numbers of
the events that anchors mark, and the fault behind them if there is one. -/
structure Stream where
  events : Array (Event × Place)
  targets : List (Nat × Nat)
  fault : Option StreamFault
  continues : Bool

structure Parsing where
  tokens : List Placed
  fault : Option SyntaxFault
  handles : List (String × String)
  anchors : Bindings Nat
  events : Array (Event × Place)
  targets : List (Nat × Nat)

/-- Reads part of a document; the events before a fault stay. -/
abbrev Parse := EStateM StreamFault Parsing

namespace Parse

def fails (problem : Problem) (place : Place) (context : Option (Activity × Place)) : Parse α :=
  throw (.malformed ⟨problem, place, context⟩)

def peek : Parse Placed := do
  let s ← get
  match s.tokens, s.fault with
  | t :: _, _ => pure t
  | [], some f => throw (.malformed f)
  | [], none => pure ⟨.streamEnd, .start, .start⟩

def skip : Parse Unit := modify fun s => { s with tokens := s.tokens.drop 1 }

def emit (e : Event) (p : Place) : Parse Unit :=
  modify fun s => { s with events := s.events.push (e, p) }

def nothingAt (p : Place) : Parse Unit := emit .empty p

/-- Numbers an anchor by how many names there are. A name that is used again takes a new number,
which the next new name then shares with it. -/
def remember : Option String → Parse Unit
  | none => pure ()
  | some name =>
    modify fun s =>
      { s with
        anchors := s.anchors.insert name s.anchors.length
        targets := (s.anchors.length, s.events.size) :: s.targets }

end Parse

open Parse

/-- What may stand in front of a node: an anchor and a tag, each at most once, in either order. -/
structure Properties where
  anchor : Option String := none
  tag : Option (String × String × Place) := none

def readProperties : Parse (Properties × Placed) := do
  let t ← peek
  match t.token with
  | .anchor a =>
    skip
    let t ← peek
    match t.token with
    | .tag h s => do
      skip
      pure (⟨some a, some (h, s, t.start)⟩, ← peek)
    | _ => pure (⟨some a, none⟩, t)
  | .tag h s =>
    let tag := some (h, s, t.start)
    skip
    let t ← peek
    match t.token with
    | .anchor a => do
      skip
      pure (⟨some a, tag⟩, ← peek)
    | _ => pure (⟨none, tag⟩, t)
  | _ => pure (⟨none, none⟩, t)

/-- The whole tag of a node that starts at a place; a tag without a handle is whole already. -/
def resolveTag (start : Place) : Option (String × String × Place) → Parse (Option String)
  | none => pure none
  | some (handle, suffix, place) => do
    if handle = "" then pure (some suffix)
    else
      match (← get).handles.lookup handle with
      | some whole => pure (some (whole ++ suffix))
      | none => fails .undefinedHandle place (some (.node, start))

def endsBlockEntry (t : Token) : Bool := t == .blockEntry || t == .blockEnd

def endsBlockPair (t : Token) : Bool := t == .key || t == .value || t == .blockEnd

def endsFlowValue (close t : Token) : Bool := t == .flowEntry || t == close

def endsFlowKey (close t : Token) : Bool := t == .value || endsFlowValue close t

def readSeparator (first : Bool) (problem : Problem) (activity : Activity) (start : Place) :
    Parse Unit := do
  if !first then
    let t ← peek
    if t.token == .flowEntry then skip else fails problem t.start (some (activity, start))

mutual

/-- Reads a node. In block context a list may stand without indentation where `indentless` allows
it. The number bounds the calls. -/
def readNode (block indentless : Bool) : Nat → Parse Unit
  | 0 => pure ()
  | n + 1 => do
    let first ← peek
    match first.token with
    | .alias name =>
      skip
      match (← get).anchors.get? name with
      | some number => emit (.alias number) first.start
      | none => throw (.unknownAnchor first.start)
    | _ =>
      let (properties, t) ← readProperties
      let tag ← resolveTag first.start properties.tag
      let begin (e : Event) : Parse Unit := do
        remember properties.anchor
        emit e first.start
      let bare := properties.anchor.isNone && tag.isNone
      let other : Parse Unit :=
        if bare then
          fails .noNodeContent t.start
            (some (if block then .blockNode else .flowNode, first.start))
        else begin (.scalar tag .plain "")
      match t.token with
      | .blockEntry =>
        if indentless then
          begin (.listStart tag)
          readIndentless n
        else other
      | .scalar style text =>
        begin (.scalar tag style text)
        skip
      | .flowSequenceStart =>
        begin (.listStart tag)
        skip
        readFlowItems true t.start n
      | .flowMappingStart =>
        begin (.mappingStart tag)
        skip
        readFlowPairs true t.start n
      | .blockSequenceStart =>
        if block then
          begin (.listStart tag)
          skip
          readBlockItems t.start n
        else other
      | .blockMappingStart =>
        if block then
          begin (.mappingStart tag)
          skip
          readBlockPairs t.start n
        else other
      | _ => other

def readBlockItems (start : Place) : Nat → Parse Unit
  | 0 => pure ()
  | n + 1 => do
    let t ← peek
    match t.token with
    | .blockEntry =>
      skip
      if endsBlockEntry (← peek).token then nothingAt t.stop else readNode true false n
      readBlockItems start n
    | .blockEnd =>
      emit .listEnd t.start
      skip
    | _ => fails .noDash t.start (some (.blockList, start))

def readIndentless : Nat → Parse Unit
  | 0 => pure ()
  | n + 1 => do
    let t ← peek
    match t.token with
    | .blockEntry =>
      skip
      let next := (← peek).token
      if endsBlockEntry next || endsBlockPair next then nothingAt t.stop else readNode true false n
      readIndentless n
    | _ => emit .listEnd t.start

def readBlockPairs (start : Place) : Nat → Parse Unit
  | 0 => pure ()
  | n + 1 => do
    let t ← peek
    match t.token with
    | .key =>
      skip
      if endsBlockPair (← peek).token then nothingAt t.stop else readNode true true n
      let t ← peek
      match t.token with
      | .value =>
        skip
        if endsBlockPair (← peek).token then nothingAt t.stop else readNode true true n
      | _ => nothingAt t.start
      readBlockPairs start n
    | .blockEnd =>
      emit .mappingEnd t.start
      skip
    | _ => fails .noBlockKey t.start (some (.blockMapping, start))

/-- The items of a list in brackets; an item may be a single pair, which makes a mapping. Where the
key of such a pair is missing, the indicator that follows counts as the key and is gone. -/
def readFlowItems (first : Bool) (start : Place) : Nat → Parse Unit
  | 0 => pure ()
  | n + 1 => do
    if (← peek).token != .flowSequenceEnd then
      readSeparator first .noListSeparator .flowList start
    let t ← peek
    match t.token with
    | .flowSequenceEnd =>
      emit .listEnd t.start
      skip
    | .key =>
      emit (.mappingStart none) t.start
      skip
      let t ← peek
      if endsFlowKey .flowSequenceEnd t.token then
        skip
        nothingAt t.stop
      else readNode false false n
      readFlowValue .flowSequenceEnd n
      emit .mappingEnd (← peek).start
      readFlowItems false start n
    | _ =>
      readNode false false n
      readFlowItems false start n

def readFlowValue (close : Token) : Nat → Parse Unit
  | 0 => pure ()
  | n + 1 => do
    let t ← peek
    match t.token with
    | .value =>
      skip
      let t ← peek
      if endsFlowValue close t.token then nothingAt t.start else readNode false false n
    | _ => nothingAt t.start

def readFlowPairs (first : Bool) (start : Place) : Nat → Parse Unit
  | 0 => pure ()
  | n + 1 => do
    if (← peek).token != .flowMappingEnd then
      readSeparator first .noMappingSeparator .flowMapping start
    let t ← peek
    match t.token with
    | .flowMappingEnd =>
      emit .mappingEnd t.start
      skip
    | .key =>
      skip
      let t ← peek
      if endsFlowKey .flowMappingEnd t.token then nothingAt t.start else readNode false false n
      readFlowValue .flowMappingEnd n
      readFlowPairs false start n
    | _ =>
      readNode false false n
      nothingAt (← peek).start
      readFlowPairs false start n

end

def defaultHandles : List (String × String) := [("!", "!"), ("!!", "tag:yaml.org,2002:")]

/-- The directives in front of a document: one version at most, which is 1.1 or 1.2, and no handle
twice. -/
def readDirectives (versioned : Bool) (declared : List (String × String)) : Nat → Parse Unit
  | 0 => pure ()
  | n + 1 => do
    let t ← peek
    match t.token with
    | .versionDirective major minor =>
      if versioned then fails .secondVersion t.start none
      else if major != 1 || (minor != 1 && minor != 2) then
        fails .incompatibleVersion t.start none
      else
        skip
        readDirectives true declared n
    | .tagDirective handle lead =>
      if declared.any (·.1 == handle) then fails .secondHandle t.start none
      else
        skip
        readDirectives versioned ((handle, lead) :: declared) n
    | _ => modify fun s => { s with handles := declared ++ defaultHandles }

def startsDocument (t : Token) : Bool :=
  match t with
  | .versionDirective .. | .tagDirective .. | .documentStart => true
  | _ => false

def readDocument (bound : Nat) : Parse Unit := do
  let t ← peek
  if t.token == .streamEnd then emit .nothing t.start
  else
    readDirectives false [] bound
    if startsDocument t.token then
      let t ← peek
      if t.token == .documentStart then skip else fails .noDocumentStart t.start none
      let t ← peek
      if startsDocument t.token || t.token == .documentEnd || t.token == .streamEnd then
        nothingAt t.start
      else readNode true false bound
    else readNode true false bound
    let t ← peek
    if t.token == .documentEnd then skip

namespace Stream

def isOver (s : Parsing) : Bool :=
  s.fault.isNone && s.tokens.all fun t => t.token == .documentEnd || t.token == .streamEnd

/-- The number of bytes before the first character that may not be there. -/
def forbidden? (text : List Char) : Option Nat :=
  let before := text.takeWhile isAllowed
  if before.length < text.length then some ((before.map Char.utf8Size).foldr (· + ·) 0) else none

def ofText (text : List Char) : Stream :=
  match forbidden? text with
  | some offset => ⟨#[], [], some (.forbidden offset), false⟩
  | none =>
    let tokens := Tokens.ofText text
    match (readDocument (4 * text.length + 4)).run
      ⟨tokens.items, tokens.fault, defaultHandles, [], #[], []⟩ with
    | .ok () s => ⟨s.events, s.targets, none, !isOver s⟩
    | .error f s => ⟨s.events, s.targets, some f, false⟩

end Stream

end GatedPipeline.Yaml
