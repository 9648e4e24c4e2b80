import GatedPipeline.Yaml.Token

namespace GatedPipeline.Yaml

inductive Problem where
  | blockEntryHere
  | blockKeyHere
  | blockValueHere
  | noTokenStart
  | noKeyColon
  | noDirectiveName
  | directiveNameCharacter
  | unknownDirective
  | noCommentOrBreak
  | noVersionNumber
  | longVersionNumber
  | noVersionPoint
  | noTagMark
  | noTagText
  | noTagClose
  | noBlank
  | noBlankOrBreak
  | noOctet
  | leadingOctet
  | trailingOctet
  | noNameCharacter
  | zeroIndentation
  | tabIndentation
  | documentMark
  | endOfText
  | unknownEscape
  | noHexNumber
  | noCharacterCode
  | colonInPlain
  | tabInPlain
  | undefinedHandle
  | noNodeContent
  | noDash
  | noBlockKey
  | noListSeparator
  | noMappingSeparator
  | secondVersion
  | incompatibleVersion
  | secondHandle
  | noDocumentStart
deriving DecidableEq, Repr

def Problem.text : Problem → String
  | .blockEntryHere => "block sequence entries are not allowed in this context"
  | .blockKeyHere => "mapping keys are not allowed in this context"
  | .blockValueHere => "mapping values are not allowed in this context"
  | .noTokenStart => "found character that cannot start any token"
  | .noKeyColon => "could not find expected ':'"
  | .noDirectiveName => "could not find expected directive name"
  | .directiveNameCharacter => "found unexpected non-alphabetical character"
  | .unknownDirective => "found unknown directive name"
  | .noCommentOrBreak => "did not find expected comment or line break"
  | .noVersionNumber => "did not find expected version number"
  | .longVersionNumber => "found extremely long version number"
  | .noVersionPoint => "did not find expected digit or '.' character"
  | .noTagMark => "did not find expected '!'"
  | .noTagText => "did not find expected tag URI"
  | .noTagClose => "did not find the expected '>'"
  | .noBlank => "did not find expected whitespace"
  | .noBlankOrBreak => "did not find expected whitespace or line break"
  | .noOctet => "did not find URI escaped octet"
  | .leadingOctet => "found an incorrect leading UTF-8 octet"
  | .trailingOctet => "found an incorrect trailing UTF-8 octet"
  | .noNameCharacter => "did not find expected alphabetic or numeric character"
  | .zeroIndentation => "found an indentation indicator equal to 0"
  | .tabIndentation => "found a tab character where an indentation space is expected"
  | .documentMark => "found unexpected document indicator"
  | .endOfText => "found unexpected end of stream"
  | .unknownEscape => "found unknown escape character"
  | .noHexNumber => "did not find expected hexdecimal number"
  | .noCharacterCode => "found invalid Unicode character escape code"
  | .colonInPlain => "found unexpected ':'"
  | .tabInPlain => "found a tab character that violates indentation"
  | .undefinedHandle => "found undefined tag handle"
  | .noNodeContent => "did not find expected node content"
  | .noDash => "did not find expected '-' indicator"
  | .noBlockKey => "did not find expected key"
  | .noListSeparator => "did not find expected ',' or ']'"
  | .noMappingSeparator => "did not find expected ',' or '\x7d'"
  | .secondVersion => "found duplicate %YAML directive"
  | .incompatibleVersion => "found incompatible YAML document"
  | .secondHandle => "found duplicate %TAG directive"
  | .noDocumentStart => "did not find expected <document start>"

inductive Activity where
  | simpleKey
  | token
  | directive
  | versionDirective
  | tagDirective
  | directiveHandle
  | directiveHandleEnd
  | directiveTagText
  | anchor
  | alias
  | tag
  | tagText
  | blockScalar
  | quotedScalar
  | escape
  | plainScalar
  | node
  | blockNode
  | flowNode
  | blockList
  | blockMapping
  | flowList
  | flowMapping
deriving DecidableEq, Repr

def Activity.text : Activity → String
  | .simpleKey => "while scanning a simple key"
  | .token => "while scanning for the next token"
  | .directive => "while scanning a directive"
  | .versionDirective => "while scanning a %YAML directive"
  | .tagDirective => "while scanning a %TAG directive"
  | .directiveHandle => "while scanning a tag directive"
  | .directiveHandleEnd => "while parsing a tag directive"
  | .directiveTagText => "while parsing a %TAG directive"
  | .anchor => "while scanning an anchor"
  | .alias => "while scanning an alias"
  | .tag => "while scanning a tag"
  | .tagText => "while parsing a tag"
  | .blockScalar => "while scanning a block scalar"
  | .quotedScalar => "while scanning a quoted scalar"
  | .escape => "while parsing a quoted scalar"
  | .plainScalar => "while scanning a plain scalar"
  | .node => "while parsing a node"
  | .blockNode => "while parsing a block node"
  | .flowNode => "while parsing a flow node"
  | .blockList => "while parsing a block collection"
  | .blockMapping => "while parsing a block mapping"
  | .flowList => "while parsing a flow sequence"
  | .flowMapping => "while parsing a flow mapping"

/-- A problem, its place, and what was being read from where on. -/
structure SyntaxFault where
  problem : Problem
  place : Place
  context : Option (Activity × Place)
deriving DecidableEq, Repr

namespace SyntaxFault

/-- The place where the reading began is told where it differs from the place of the problem. -/
def text (f : SyntaxFault) : String :=
  f.problem.text ++ f.place.suffix ++
    match f.context with
    | none => ""
    | some (activity, start) =>
      ", " ++ activity.text ++ (if start = f.place then "" else start.suffix)

end SyntaxFault

abbrev Scan := Except SyntaxFault

namespace Scan

def fails (problem : Problem) (place : Place) (activity : Activity) (start : Place) : Scan α :=
  .error ⟨problem, place, some (activity, start)⟩

/-- A problem that says enough by itself. -/
def refuses (problem : Problem) (place : Place) : Scan α := .error ⟨problem, place, none⟩

end Scan

end GatedPipeline.Yaml
