import ContainerBridge.Text.Basic
import ContainerBridge.Yaml.Flow

/-! YAML texts: documents whose structure is shown by indentation, without anchors and tags. -/

namespace ContainerBridge.Yaml
open Json

abbrev Line := List Char

namespace Line

/-- How many blanks the line begins with. -/
def indent (l : Line) : Nat := (l.takeWhile (· = ' ')).length

def content (l : Line) : List Char := l.dropWhile (· = ' ')

/-- Whether the line holds nothing but blanks and a comment. -/
def isEmpty (l : Line) : Bool :=
  match l.dropWhile isSpace with
  | [] => true
  | c :: _ => c = '#'

/-- Whether the line begins with the dash of a list's item. -/
def isItem (l : Line) : Bool :=
  match l.content with
  | '-' :: rest => rest.head?.all isSpace
  | _ => false

/-- The line with a blank for the dash of its item. -/
def withoutDash (l : Line) : Line :=
  l.takeWhile (· = ' ') ++ ' ' :: l.content.drop 1

/-- The text before a comment. -/
def withoutComment (fresh : Bool) : List Char → List Char
  | [] => []
  | c :: rest => if c = '#' && fresh then [] else c :: withoutComment (isSpace c) rest

/-- The characters before and after the colon of a key. -/
def cutKey (done : List Char) : List Char → Option (List Char × List Char)
  | [] => none
  | c :: rest =>
    if c = ':' && rest.head?.all isSpace then some (done.reverse, rest)
    else if c = '#' && done.head?.any isSpace then none
    else cutKey (c :: done) rest

/-- The key that the line begins with, and what follows its colon. -/
def key? (l : Line) : Option (String × List Char) :=
  match quoted l.content with
  | some (s, rest) => match rest.dropWhile isBlank with
    | ':' :: rest => if rest.head?.all isSpace then some (s, rest) else none
    | _ => none
  | none =>
    if startsPlain l.content then
      (cutKey [] l.content).map fun (key, rest) => (String.ofList (trimEnd key), rest)
    else none

end Line

/-- Lines without the empty ones at the beginning. -/
def settle (ls : List Line) : List Line := ls.dropWhile Line.isEmpty

/-! Scalars of several lines. -/

/-- The lines of a block from its indentation on, and those after it. -/
def blockLines (least : Nat) (ls : List Line) : List Line × List Line :=
  ls.span fun l => (l.all isSpace) || least ≤ l.indent

/-- A block whose lines stand as they are (`|`) or are folded (`>`); the mark tells whether line
ends at its end stay. -/
def blockText (folded : Bool) (mark : List Char) (ls : List Line) : String :=
  let depth := ((ls.filter fun l => !l.all isSpace).map Line.indent).head?.getD 0
  let texts := ls.map fun l => String.ofList (trimEnd (l.drop depth))
  let text := Text.joinWith (if folded then " " else "\n") texts
  let cut := String.ofList (trimEnd text.toList)
  match mark with
  | ['-'] => cut
  | ['+'] => text ++ "\n"
  | _ => if cut.isEmpty then cut else cut ++ "\n"

/-- The lines that continue a plain scalar, folded into it. -/
def continued (least : Nat) (text : List Char) : List Line → List Char × List Line
  | [] => (text, [])
  | l :: rest =>
    if l.isEmpty || l.indent < least then (text, l :: rest)
    else
      let more := trimEnd (Line.withoutComment true l.content)
      continued least (text ++ ' ' :: more) rest

/-- A value that begins on the line of its key or dash, followed by the lines `rest`. -/
def inlineValue (least : Nat) (cs : List Char) (rest : List Line) : Option (Value × List Line) :=
  match cs.dropWhile isBlank with
  | [] => some (.null, rest)
  | c :: more =>
    if c = '|' || c = '>' then
      let (block, rest) := blockLines least rest
      some (.string (blockText (c = '>') (trimEnd (Line.withoutComment true more)) block), rest)
    else if "[\x7b'\"".toList.contains c then do
      let (v, after) ← Flow.read (c :: more ++ rest.flatMap ('\n' :: ·))
      match Text.parts '\n' after with
      | l :: rest => if Line.isEmpty l then some (v, rest) else none
      | [] => some (v, [])
    else if startsPlain (c :: more) then
      let (text, rest) := continued least (trimEnd (Line.withoutComment false (c :: more))) rest
      if (Line.cutKey [] text).isSome then none else some (plain text, rest)
    else none

/-! Blocks. -/

mutual

/-- The value that the lines indented by at least `least` hold; every call uses up a sign of
structure or a line, so `steps` bounds the calls. -/
def block : Nat → Nat → List Line → Option (Value × List Line)
  | 0, _, _ => none
  | steps + 1, least, ls => match settle ls with
    | [] => some (.null, [])
    | l :: rest =>
      if l.indent < least then some (.null, l :: rest)
      else if l.isItem then
        (blockItems steps l.indent (l :: rest)).map fun (vs, rest) => (.array vs, rest)
      else if l.key?.isSome then do
        let (es, rest) ← blockEntries steps l.indent (l :: rest)
        return (← ofEntries es, rest)
      else inlineValue least l.content rest

/-- The items of a list whose dashes stand at `depth`. -/
def blockItems : Nat → Nat → List Line → Option (List Value × List Line)
  | 0, _, _ => none
  | steps + 1, depth, ls => match settle ls with
    | [] => some ([], [])
    | l :: rest =>
      if l.indent = depth && l.isItem then do
        let (v, rest) ← block steps (depth + 1) (l.withoutDash :: rest)
        let (vs, rest) ← blockItems steps depth rest
        return (v :: vs, rest)
      else some ([], l :: rest)

/-- The entries of a mapping whose keys stand at `depth`; a list may stand as deep as its key. -/
def blockEntries : Nat → Nat → List Line → Option (List (String × Value) × List Line)
  | 0, _, _ => none
  | steps + 1, depth, ls => match settle ls with
    | [] => some ([], [])
    | l :: rest =>
      match if l.indent = depth && !l.isItem then l.key? else none with
      | none => some ([], l :: rest)
      | some (key, after) => do
        let (v, rest) ←
          if !Line.isEmpty (' ' :: after) then inlineValue (depth + 1) after rest
          else match settle rest with
            | next :: more =>
              if next.indent = depth && next.isItem then
                (blockItems steps depth (next :: more)).map fun (vs, rest) => (.array vs, rest)
              else block steps (depth + 1) (next :: more)
            | [] => some (.null, [])
        let (es, rest) ← blockEntries steps depth rest
        return ((key, v) :: es, rest)

end

/-! Documents. -/

/-- Whether the line begins with the three signs and nothing else that belongs to them. -/
def isMarker (sign : Char) (l : Line) : Bool :=
  [sign, sign, sign].isPrefixOf l && (l.drop 3).head?.all isSpace

/-- The lines of each document; one begins behind `---`. -/
def documentLines : List Line → List (List Line)
  | [] => [[]]
  | l :: rest => match documentLines rest with
    | [] => [[l]]
    | d :: ds =>
      if isMarker '-' l then [] :: ((' ' :: ' ' :: ' ' :: l.drop 3) :: d) :: ds
      else if isMarker '.' l then [] :: d :: ds
      else (l :: d) :: ds

def isDirective (l : Line) : Bool := l.head? = some '%'

/-- The value of a document, which takes up all of its lines. -/
def document (ls : List Line) : Option Value := do
  let steps := 2 * (ls.flatten.length + ls.length) + 2
  let (v, rest) ← block steps 0 ls
  if (settle rest).isEmpty then some v else none

/-- Reads the documents of a text; stretches without content are none. -/
def read (s : String) : Option (List Value) :=
  let ls := (Text.parts '\n' s.toList).map fun l => l.filter (· ≠ '\r')
  let stretches := (documentLines (ls.filter fun l => !isDirective l)).filter fun d =>
    !(settle d).isEmpty
  stretches.mapM document

end ContainerBridge.Yaml
