import CaptureTheFlag.Json.Value
import CaptureTheFlag.Text.Hex

/-!
# Writing JSON text

A value is written without blanks.  In texts a quote, a backslash and the characters below U+0020
are escaped, the usual ones with a letter and the others by number; all else stands for itself.

* `Json.render`: the text of a value.
-/

namespace CaptureTheFlag.Json

/-- A character as it stands between quotes. -/
def escaped (c : Char) : List Char :=
  match c with
  | '"' => ['\\', '"']
  | '\\' => ['\\', '\\']
  | '\n' => ['\\', 'n']
  | '\r' => ['\\', 'r']
  | '\t' => ['\\', 't']
  | c =>
    let n := c.toNat
    if n = 8 then ['\\', 'b']
    else if n = 12 then ['\\', 'f']
    else if n < 32 then ['\\', 'u', '0', '0', Text.Hex.digit (n / 16), Text.Hex.digit (n % 16)]
    else [c]

/-- A text between quotes. -/
def renderString (s : String) : String :=
  "\"" ++ String.ofList (s.toList.flatMap escaped) ++ "\""

mutual

/-- The text of a value. -/
def render : Json → String
  | .null => "null"
  | .bool true => "true"
  | .bool false => "false"
  | .integer n => toString n
  | .real negative digits exponent =>
    (if negative then "-" else "") ++ toString digits ++ "e" ++ toString exponent
  | .string s => renderString s
  | .array items => "[" ++ String.intercalate "," (renderItems items) ++ "]"
  | .object fields => "\x7b" ++ String.intercalate "," (renderFields fields) ++ "\x7d"

def renderItems : List Json → List String
  | [] => []
  | v :: r => v.render :: renderItems r

def renderFields : List (String × Json) → List String
  | [] => []
  | (k, v) :: r => (renderString k ++ ":" ++ v.render) :: renderFields r

end

end CaptureTheFlag.Json
