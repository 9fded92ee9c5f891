import CaptureTheFlag.Json.Decoder
import CaptureTheFlag.Json.Printer

/-!
# Texts in JSON read back

What is written for a text is read as the text, whatever characters are in it, and so is what is
written for an object of texts.

* `Token.Scanner.foldl_escaped`: a character as it stands between quotes is read as the character.
* `Token.Scanner.foldl_renderString`: the same for a text.
* `Token.scan_render_texts`: the tokens of an object of texts.
* `Tree.read_render_texts`: the tree of an object of texts.

## The machine in the middle

The scanner takes one character at a time and knows nothing of what comes.  So what it does to a
part of a text is said for any tokens that it has cut off before, and the parts are put together by
`List.foldl_append` alone.
-/

namespace CaptureTheFlag.Json

namespace Token

/-! ## Characters and texts -/

namespace Quoted

/-- A unit below the surrogates is a character. -/
theorem pushUnit_of_lt {q : Quoted} {n : Nat} (h : n < 0xD800) :
    q.pushUnit n = q.push (Char.ofNat n) := by
  unfold pushUnit
  rw [if_neg (by omega), if_neg (by omega)]

/-- Characters that are read one after another.  The induction is on the characters. -/
theorem foldl_push (cs read : List Char) :
    cs.foldl push ⟨read, true, none⟩ = ⟨cs.reverse ++ read, true, none⟩ := by
  induction cs generalizing read with
  | nil => rfl
  | cons c r ih =>
    rw [List.foldl_cons, List.reverse_cons, List.append_assoc]
    exact ih (c :: read)

theorem close_foldl_push (s : String) : (s.toList.foldl push empty).close = some s := by
  unfold empty
  rw [foldl_push, List.append_nil]
  show some (String.ofList s.toList.reverse.reverse) = some s
  rw [List.reverse_reverse, String.ofList_toList]

end Quoted

namespace Scanner

variable (ts : List Token)

/-- Between quotes a character that is not special stands for itself. -/
theorem step_quoted {q : Quoted} {c : Char} (hquote : c ≠ '"') (hbackslash : c ≠ '\\')
    (hcontrol : ¬c.toNat < 32) : step ⟨.quoted q, ts⟩ c = ⟨.quoted (q.push c), ts⟩ := by
  show (if c = '"' then _ else if c = '\\' then _ else if c.toNat < 32 then _ else _) = _
  rw [if_neg hquote, if_neg hbackslash, if_neg hcontrol]
  rfl

/-- A character below U+0020 that is escaped by its number is read as the character. -/
theorem foldl_numeric (q : Quoted) {n : Nat} (h : n < 32) :
    ['\\', 'u', '0', '0', Text.Hex.digit (n / 16), Text.Hex.digit (n % 16)].foldl step
      ⟨.quoted q, ts⟩ = ⟨.quoted (q.push (Char.ofNat n)), ts⟩ := by
  have hzero : Text.Hex.value? '0' = some 0 := rfl
  have hhigh : Text.Hex.value? (Text.Hex.digit (n / 16)) = some (n / 16) :=
    Text.Hex.value?_digit _ (by omega)
  have hlow : Text.Hex.value? (Text.Hex.digit (n % 16)) = some (n % 16) :=
    Text.Hex.value?_digit _ (by omega)
  have hnumber : 16 * (n / 16) + n % 16 = n := by omega
  have hdigits : [Text.Hex.digit (n / 16), Text.Hex.digit (n % 16)].foldl step
      ⟨.numeric q 2 0, ts⟩ = ⟨.quoted (q.pushUnit n), ts⟩ := by
    simp [step, hhigh, hlow, hnumber, goOn]
  rw [Quoted.pushUnit_of_lt (by omega)] at hdigits
  exact hdigits

/-- **A character as it stands between quotes is read as the character.** -/
theorem foldl_escaped (q : Quoted) (c : Char) :
    (escaped c).foldl step ⟨.quoted q, ts⟩ = ⟨.quoted (q.push c), ts⟩ := by
  unfold escaped
  split
  · rfl
  · rfl
  · rfl
  · rfl
  · rfl
  · next hquote hbackslash _ _ _ =>
    have hsame : Char.ofNat c.toNat = c := Char.ofNat_toNat c
    dsimp only
    split
    · next h =>
      rw [h] at hsame
      rw [← hsame]
      rfl
    split
    · next h =>
      rw [h] at hsame
      rw [← hsame]
      rfl
    split
    · next h =>
      rw [foldl_numeric ts q h, hsame]
    · next h => exact step_quoted ts hquote hbackslash h

theorem foldl_flatMap_escaped (q : Quoted) (cs : List Char) :
    (cs.flatMap escaped).foldl step ⟨.quoted q, ts⟩ = ⟨.quoted (cs.foldl Quoted.push q), ts⟩ := by
  induction cs generalizing q with
  | nil => rfl
  | cons c r ih => rw [List.flatMap_cons, List.foldl_append, foldl_escaped, ih, List.foldl_cons]

/-- **What is written for a text is read as the text.** -/
theorem foldl_renderString (s : String) :
    (renderString s).toList.foldl step ⟨.between, ts⟩ = ⟨.between, .string (some s) :: ts⟩ := by
  unfold renderString
  simp only [String.toList_append, String.toList_ofList, List.foldl_append]
  show ['"'].foldl step ((s.toList.flatMap escaped).foldl step ⟨.quoted .empty, ts⟩) = _
  rw [foldl_flatMap_escaped]
  show emit ⟨_, ts⟩ (.string (s.toList.foldl Quoted.push .empty).close) = _
  rw [Quoted.close_foldl_push]
  rfl

end Scanner

/-! ## Objects of texts -/

/-- The tokens of a field whose value is a text. -/
def ofText (field : String × String) : List Token :=
  [.string (some field.1), .colon, .string (some field.2)]

end Token

/-- The object whose fields are texts. -/
def ofTexts (fields : List (String × String)) : Json :=
  .object (fields.map fun field => (field.1, .string field.2))

/-- What is written for a field whose value is a text. -/
def renderText (field : String × String) : String :=
  renderString field.1 ++ ":" ++ renderString field.2

theorem render_ofTexts (fields : List (String × String)) :
    render (ofTexts fields) =
      "\x7b" ++ String.intercalate "," (fields.map renderText) ++ "\x7d" := by
  have hfields : renderFields (fields.map fun field => (field.1, .string field.2)) =
      fields.map renderText := by
    induction fields with
    | nil => rfl
    | cons field r ih =>
      rw [List.map_cons, List.map_cons, ← ih]
      rfl
  unfold ofTexts
  rw [render, hfields]

namespace Token

theorem Scanner.foldl_renderText (ts : List Token) (field : String × String) :
    (renderText field).toList.foldl step ⟨.between, ts⟩ =
      ⟨.between, (ofText field).reverse ++ ts⟩ := by
  unfold renderText
  simp only [String.toList_append, List.foldl_append]
  rw [foldl_renderString]
  show (renderString field.2).toList.foldl step ⟨.between, .colon :: _⟩ = _
  rw [foldl_renderString]
  rfl

/-- The fields are read one after another.  The induction is on the fields, and a comma stands
behind each but the last. -/
theorem Scanner.foldl_renderTexts (ts : List Token) (fields : List (String × String)) :
    (String.intercalate "," (fields.map renderText)).toList.foldl step ⟨.between, ts⟩ =
      ⟨.between, (List.intercalate [.comma] (fields.map ofText)).reverse ++ ts⟩ := by
  induction fields generalizing ts with
  | nil => rfl
  | cons field r ih =>
    cases r with
    | nil =>
      rw [List.map_singleton, List.map_singleton, String.intercalate_singleton,
        List.intercalate_singleton]
      exact foldl_renderText ts field
    | cons field' r =>
      rw [List.map_cons, List.map_cons, String.intercalate_cons_cons, String.toList_append,
        String.toList_append, List.foldl_append, List.foldl_append, foldl_renderText]
      have hcomma : ",".toList.foldl step ⟨.between, (ofText field).reverse ++ ts⟩ =
        ⟨.between, .comma :: ((ofText field).reverse ++ ts)⟩ := rfl
      rw [hcomma, ← List.map_cons, ih, List.map_cons, List.map_cons, List.map_cons,
        List.intercalate_cons_cons]
      simp

/-- The tokens of an object of texts. -/
theorem scan_render_texts (fields : List (String × String)) :
    scan (render (ofTexts fields)) =
      .openObject :: (List.intercalate [.comma] (fields.map ofText) ++ [.closeObject]) := by
  unfold scan
  rw [String.foldl_eq_foldl_toList, render_ofTexts, String.toList_append, String.toList_append,
    List.foldl_append, List.foldl_append]
  have hopen : "\x7b".toList.foldl Scanner.step .start = ⟨.between, [.openObject]⟩ := rfl
  rw [hopen, Scanner.foldl_renderTexts]
  have hclose (ts : List Token) : ("\x7d".toList.foldl Scanner.step ⟨.between, ts⟩).finish =
      (.closeObject :: ts).reverse := rfl
  rw [hclose]
  simp

end Token

namespace Tree

/-- A field in a tree whose value is a text. -/
def ofText (field : String × String) : Option String × Tree :=
  (some field.1, .string (some field.2))

namespace Builder

/-- Inside an object with these fields, the last one first. -/
def inside (fields : List (Option String × Tree)) (expected : Expected) : Builder :=
  ⟨[.object fields], expected, .broken, false, false⟩

theorem foldl_ofText (before : List (Option String × Tree)) (field : String × String)
    {expected : Expected} (h : expected = .keyOrClose ∨ expected = .key) :
    (Token.ofText field).foldl step (inside before expected) =
      inside (ofText field :: before) .commaOrClose := by
  rcases h with rfl | rfl <;> rfl

/-- The fields are put in one after another.  The induction is on the fields. -/
theorem foldl_ofTexts (before : List (Option String × Tree)) (field : String × String)
    (fields : List (String × String)) {expected : Expected}
    (h : expected = .keyOrClose ∨ expected = .key) :
    (List.intercalate [.comma] ((field :: fields).map Token.ofText)).foldl step
        (inside before expected) =
      inside (((field :: fields).map ofText).reverse ++ before) .commaOrClose := by
  induction fields generalizing before field expected with
  | nil =>
    rw [List.map_singleton, List.intercalate_singleton]
    exact foldl_ofText before field h
  | cons field' r ih =>
    rw [List.map_cons, List.map_cons, List.intercalate_cons_cons, List.foldl_append,
      List.foldl_append, foldl_ofText before field h]
    have hcomma : [Token.comma].foldl step (inside (ofText field :: before) .commaOrClose) =
      inside (ofText field :: before) .key := rfl
    rw [hcomma, ← List.map_cons, ih _ field' (Or.inr rfl)]
    simp

end Builder

/-- **The tree of an object of texts.** -/
theorem read_render_texts (fields : List (String × String)) :
    read (render (ofTexts fields)) = (.object (fields.map ofText) true, false) := by
  unfold read
  rw [Token.scan_render_texts, List.foldl_cons, List.foldl_append]
  have hopen : Builder.step .start .openObject = .inside [] .keyOrClose := rfl
  rw [hopen]
  cases fields with
  | nil => rfl
  | cons field r =>
    rw [Builder.foldl_ofTexts [] field r (Or.inl rfl), List.append_nil]
    have hclose (fields : List (Option String × Tree)) :
        [Token.closeObject].foldl Builder.step (.inside fields .commaOrClose) =
          ⟨[], .nothing, .object fields.reverse true, false, false⟩ := rfl
    rw [hclose, List.reverse_reverse]
    rfl

end Tree

end CaptureTheFlag.Json
