import ContainerBridge.Text.Case
import ContainerBridge.Text.Utf8
import ContainerBridge.Timestamp

/-! How single values are shown to people. -/

namespace ContainerBridge.Cli

inductive Color where
  | red
  | green
  | yellow
  | blue
  | cyan
  deriving DecidableEq, Repr

/-- The number of the color in the sequences that terminals obey. -/
def Color.code : Color → String
  | .red => "31"
  | .green => "32"
  | .yellow => "33"
  | .blue => "34"
  | .cyan => "36"

/-- Whether the terminal shows colors. -/
structure Screen where
  colors : Bool

namespace Screen

/-- Colors are shown if they are forced or, unless they are refused, on a terminal. -/
def ofEnvironment (forced refused wanted : Option String) (isTerminal : Bool) : Screen :=
  ⟨forced.any (· ≠ "0") || (refused.isNone && isTerminal && wanted != some "0")⟩

/-- The text between sequences that turn codes on and off. -/
def withCodes (s : Screen) (codes : List String) (text : String) : String :=
  if s.colors && !codes.isEmpty then
    "\x1b[" ++ ";".intercalate codes ++ "m" ++ text ++ "\x1b[0m"
  else text

def bold (s : Screen) (text : String) : String := s.withCodes ["1"] text

def paint (s : Screen) (c : Color) (text : String) : String := s.withCodes [c.code] text

/-- A sign that stands before a message. -/
def sign (s : Screen) (c : Color) (text : String) : String := s.withCodes ["1", c.code] text

/-- The state of a container, in a color that tells how it fares. -/
def state (s : Screen) (state : String) : String :=
  let word := Text.lower state
  if word = "running" then s.paint .green state
  else if ["created", "restarting", "paused"].contains word then s.paint .yellow state
  else if ["exited", "dead", "removing"].contains word then s.paint .red state
  else state

end Screen

/-- A timestamp to the second; any other text is shown as it is. -/
def showTime (s : String) : String := ((Timestamp.parse s).map Timestamp.text).getD s

/-- The first twelve bytes of an id, unless they end inside a character or there are fewer. -/
def shortId (id : String) : String :=
  let bytes := Text.bytes id
  if bytes.length < 12 then id else (Text.ofBytes? (bytes.take 12)).getD id

/-- A dash for a text that is absent or empty. -/
def orDash (s : Option String) : String := (s.filter fun s => !s.isEmpty).getD "-"

end ContainerBridge.Cli
