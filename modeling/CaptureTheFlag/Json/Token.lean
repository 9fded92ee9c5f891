import CaptureTheFlag.Json.Number
import CaptureTheFlag.Text.Hex

/-!
# Tokens of JSON text

A text is cut into tokens by a machine that takes one character at a time, so that cutting is one
fold over the text.  Where the text cannot be cut any further the token `broken` stands, and it is
the last one.

* `Token.scan`: the tokens of a text.
-/

namespace CaptureTheFlag.Json

/-- The smallest parts of JSON text. -/
inductive Token where
  | openObject
  | closeObject
  | openArray
  | closeArray
  | colon
  | comma
  | null
  | bool (b : Bool)
  | number (v : Numeral.Value)
  /-- A text between quotes; none if an escape in it names half of a surrogate pair alone. -/
  | string (s : Option String)
  /-- From here on the text is not JSON. -/
  | broken
  deriving DecidableEq, Repr

namespace Token

/-- The beginning of a text between quotes, the last character first. -/
structure Quoted where
  chars : List Char
  /-- No half of a surrogate pair has stood alone. -/
  sound : Bool
  /-- The first half of a surrogate pair, if it was the last thing read. -/
  high : Option Nat
  deriving DecidableEq, Repr

namespace Quoted

def empty : Quoted := ⟨[], true, none⟩

/-- One more character; a half before it stays alone. -/
def push (q : Quoted) (c : Char) : Quoted :=
  ⟨c :: q.chars, q.sound && q.high.isNone, none⟩

/-- One more UTF-16 unit. -/
def pushUnit (q : Quoted) (n : Nat) : Quoted :=
  if 0xD800 ≤ n ∧ n ≤ 0xDBFF then ⟨q.chars, q.sound && q.high.isNone, some n⟩
  else if 0xDC00 ≤ n ∧ n ≤ 0xDFFF then
    match q.high with
    | some h => ⟨Char.ofNat (0x10000 + (h - 0xD800) * 0x400 + (n - 0xDC00)) :: q.chars, q.sound, none⟩
    | none => ⟨q.chars, false, none⟩
  else q.push (Char.ofNat n)

/-- The text, when its closing quote is reached. -/
def close (q : Quoted) : Option String :=
  if q.sound && q.high.isNone then some (String.ofList q.chars.reverse) else none

end Quoted

/-- Where the machine stands. -/
inductive Mode where
  | between
  /-- Inside a word, with the characters that must follow. -/
  | word (owed : List Char) (token : Token)
  | number (p : Numeral.Partial)
  | quoted (q : Quoted)
  /-- Behind a backslash. -/
  | escape (q : Quoted)
  /-- Inside a numeric escape: digits still owed, and the number so far. -/
  | numeric (q : Quoted) (owed : Nat) (n : Nat)
  | stopped

/-- The machine: where it stands, and the tokens it has cut off, the last one first. -/
structure Scanner where
  mode : Mode
  tokens : List Token

namespace Scanner

def start : Scanner := ⟨.between, []⟩

def emit (s : Scanner) (t : Token) : Scanner := ⟨.between, t :: s.tokens⟩

def goOn (s : Scanner) (m : Mode) : Scanner := ⟨m, s.tokens⟩

def fail (s : Scanner) : Scanner := ⟨.stopped, .broken :: s.tokens⟩

/-- One character between two tokens. -/
def between (s : Scanner) (c : Char) : Scanner :=
  match c with
  | ' ' | '\t' | '\n' | '\r' => s.goOn .between
  | '\x7b' => s.emit .openObject
  | '\x7d' => s.emit .closeObject
  | '[' => s.emit .openArray
  | ']' => s.emit .closeArray
  | ':' => s.emit .colon
  | ',' => s.emit .comma
  | '"' => s.goOn (.quoted .empty)
  | 'n' => s.goOn (.word ['u', 'l', 'l'] .null)
  | 't' => s.goOn (.word ['r', 'u', 'e'] (.bool true))
  | 'f' => s.goOn (.word ['a', 'l', 's', 'e'] (.bool false))
  | c =>
    match Numeral.Partial.start? c with
    | some p => s.goOn (.number p)
    | none => s.fail

/-- The token of a number that ends. -/
def endNumber (s : Scanner) (p : Numeral.Partial) : Scanner :=
  match p.finish? with
  | some m => s.emit (.number m.value)
  | none => s.fail

/-- The character behind a backslash. -/
def escape (s : Scanner) (q : Quoted) (c : Char) : Scanner :=
  match c with
  | '"' | '\\' | '/' => s.goOn (.quoted (q.push c))
  | 'b' => s.goOn (.quoted (q.push (Char.ofNat 8)))
  | 'f' => s.goOn (.quoted (q.push (Char.ofNat 12)))
  | 'n' => s.goOn (.quoted (q.push '\n'))
  | 'r' => s.goOn (.quoted (q.push '\r'))
  | 't' => s.goOn (.quoted (q.push '\t'))
  | 'u' => s.goOn (.numeric q 4 0)
  | _ => s.fail

/-- One character. -/
def step (s : Scanner) (c : Char) : Scanner :=
  match s.mode with
  | .between => s.between c
  | .word owed token =>
    match owed with
    | [] => s.fail
    | [d] => if c = d then s.emit token else s.fail
    | d :: r => if c = d then s.goOn (.word r token) else s.fail
  | .number p =>
    match p.follow c with
    | .goOn p' => s.goOn (.number p')
    | .ends => (s.endNumber p).between c
    | .spoils => s.fail
  | .quoted q =>
    if c = '"' then s.emit (.string q.close)
    else if c = '\\' then s.goOn (.escape q)
    else if c.toNat < 32 then s.fail
    else s.goOn (.quoted (q.push c))
  | .escape q => s.escape q c
  | .numeric q owed n =>
    match Text.Hex.value? c with
    | none => s.fail
    | some d =>
      if owed ≤ 1 then s.goOn (.quoted (q.pushUnit (16 * n + d)))
      else s.goOn (.numeric q (owed - 1) (16 * n + d))
  | .stopped => s

/-- The tokens, when the text ends. -/
def finish (s : Scanner) : List Token :=
  match s.mode with
  | .between | .stopped => s.tokens.reverse
  | .number p => (s.endNumber p).tokens.reverse
  | _ => s.fail.tokens.reverse

end Scanner

/-- The tokens of a text. -/
def scan (text : String) : List Token :=
  (text.foldl Scanner.step .start).finish

end Token

end CaptureTheFlag.Json
