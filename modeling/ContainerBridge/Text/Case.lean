import ContainerBridge.Text.CaseTable

/-! Upper and lower case of texts, over all of Unicode. -/

namespace ContainerBridge.Text

def inRanges (n : Nat) (ranges : List (Nat × Nat)) : Bool :=
  ranges.any fun r => r.1 ≤ n && n ≤ r.2

/-- Where the runs send the code point `n`, if one of them holds it. -/
def shifted (runs : List CaseRun) (n : Nat) : Option Nat :=
  (runs.find? fun r => r.first ≤ n && n ≤ r.last && (n - r.first) % r.step == 0).map
    fun r => ((n : Int) + r.shift).toNat

/-- The upper case of one character, which may take several. -/
def upperChar (c : Char) : List Char :=
  if c.toNat < 128 then [c.toUpper]
  else match upperExpansions.lookup c.toNat with
    | some cs => cs.map Char.ofNat
    | none => [((shifted upperRuns c.toNat).map Char.ofNat).getD c]

/-- The lower case of one character that does not stand at the end of a word. -/
def lowerChar (c : Char) : List Char :=
  if c.toNat < 128 then [c.toLower]
  else if c.toNat = 0x130 then ['i', Char.ofNat 0x307]
  else [((shifted lowerRuns c.toNat).map Char.ofNat).getD c]

def isCased (c : Char) : Bool :=
  if c.toNat < 128 then c.isAlpha else inRanges c.toNat casedRanges

def isCaseIgnorable (c : Char) : Bool :=
  if c.toNat < 128 then c = '\'' || c = '.' || c = ':' || c = '^' || c = '\x60'
  else inRanges c.toNat caseIgnorableRanges

/-- The nearest character that counts is a cased one. -/
def meetsCased (cs : List Char) : Bool :=
  match cs.dropWhile isCaseIgnorable with
  | c :: _ => isCased c
  | [] => false

/-- Lower case after the characters `before`, nearest first: a sigma that ends a word has the
final form. -/
def lowerAfter (before : List Char) : List Char → List Char
  | [] => []
  | c :: rest =>
    (if c = 'Σ' then
      if meetsCased before && !meetsCased rest then ['ς'] else ['σ']
     else lowerChar c) ++ lowerAfter (c :: before) rest

def upper (s : String) : String := String.ofList (s.toList.flatMap upperChar)

def lower (s : String) : String := String.ofList (lowerAfter [] s.toList)

/-- Lower case of the ASCII letters; all else stays. -/
def lowerAscii (s : String) : String := String.ofList (s.toList.map Char.toLower)

end ContainerBridge.Text
