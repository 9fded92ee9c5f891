/-!
# Media types

The type of a request's body, as its header gives it: a type and a subtype of token characters, and
then parameters, each a name with a value that is a token or stands between quotes.  Case does not
count.  A subtype may end in a plus and a suffix.

* `MediaType.parse?`: the type and subtype of a header.
* `MediaType.isJson`: the body is JSON.
-/

namespace CaptureTheFlag.Http

/-- A type of bodies, without its parameters. -/
structure MediaType where
  type : String
  subtype : List Char
  deriving DecidableEq, Repr

namespace MediaType

/-- The characters of a token. -/
def isToken (c : Char) : Bool :=
  c.isAlphanum ||
    c ∈ ['!', '#', '$', '%', '&', '\'', '*', '+', '-', '.', '^', '_', Char.ofNat 0x60, '|', '~']

/-- The characters between the quotes of a parameter's value.  A header has no others than those of
ASCII that show, and blanks. -/
def isQuoted (c : Char) : Bool := 32 ≤ c.toNat && c.toNat < 127

/-- Where a reader of parameters stands. -/
inductive Place where
  /-- Before a name. -/
  | beforeName
  | name
  /-- Behind an equals sign. -/
  | beforeValue
  | value
  /-- Behind an opening quote.  A value is not empty, so the next character belongs to it. -/
  | openQuote
  | quoted
  /-- Behind a closing quote. -/
  | afterQuote
  deriving DecidableEq

/-- One character of the parameters. -/
def Place.step (p : Place) (c : Char) : Option Place :=
  match p with
  | .beforeName => if c = ' ' then some .beforeName else if isToken c then some .name else none
  | .name => if isToken c then some .name else if c = '=' then some .beforeValue else none
  | .beforeValue => if c = '"' then some .openQuote else if isToken c then some .value else none
  | .value => if isToken c then some .value else if c = ';' then some .beforeName else none
  | .openQuote => if isQuoted c then some .quoted else none
  | .quoted => if c = '"' then some .afterQuote else if isQuoted c then some .quoted else none
  | .afterQuote =>
    if c = ';' then some .beforeName else if c = ' ' then some .afterQuote else none

/-- The parameters may end here. -/
def Place.mayEnd : Place → Bool
  | .beforeName | .value | .beforeValue | .afterQuote => true
  | .name | .openQuote | .quoted => false

/-- The text is a list of parameters. -/
def areParameters (cs : List Char) : Bool :=
  match cs.foldlM Place.step .beforeName with
  | some p => p.mayEnd
  | none => false

/-- The type and subtype of a header. -/
def parse? (header : String) : Option MediaType :=
  let cs := header.toList
  let type := cs.takeWhile isToken
  match type, cs.drop type.length with
  | _ :: _, '/' :: r =>
    let subtype := r.takeWhile isToken
    let lowered : MediaType :=
      ⟨String.ofList (type.map Char.toLower), subtype.map Char.toLower⟩
    match r.drop subtype.length with
    | [] => some lowered
    | c :: parameters =>
      if c = ';' && !subtype.isEmpty && areParameters parameters then some lowered
      else none
  | _, _ => none

/-- The last plus of a subtype that does not begin it, and what stands around it. -/
def suffix? (subtype : List Char) : Option (List Char × List Char) :=
  let tail := (subtype.reverse.takeWhile (· ≠ '+')).reverse
  let head := subtype.take (subtype.length - tail.length - 1)
  if tail.length < subtype.length ∧ head ≠ [] then some (head, tail) else none

/-- The body is JSON: the subtype, or its suffix, says so. -/
def isJson (header : String) : Bool :=
  let json := ['j', 's', 'o', 'n']
  match parse? header with
  | none => false
  | some m =>
    m.type = "application" &&
      match suffix? m.subtype with
      | none => m.subtype = json
      | some (head, tail) => head = json || tail = json

end MediaType

end CaptureTheFlag.Http
