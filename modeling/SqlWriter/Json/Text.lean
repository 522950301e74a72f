import SqlWriter.Json.Value
import SqlWriter.Shape.Word
import SqlWriter.Text.Code
import SqlWriter.Value.Record

/-! JSON texts: the strict notation, read into values. -/

namespace SqlWriter

/-- The character that a surrogate pair stands for. -/
def charOfPair? (high low : Nat) : Option Char :=
  -- Each half carries ten bits of a code beyond the first plane.
  if 0xD800 ≤ high && high < 0xDC00 && 0xDC00 ≤ low && low < 0xE000 then
    charOfCode? (0x10000 + (high - 0xD800) * 0x400 + (low - 0xDC00))
  else none

/-- The character that stands behind a backslash for another one. -/
def jsonEscape? (c : Char) : Option Char :=
  if c = '"' || c = '\\' || c = '/' then some c
  else if c = 'b' then some '\x08'
  else if c = 'f' then some '\x0c'
  else if c = 'n' then some '\n'
  else if c = 'r' then some '\r'
  else if c = 't' then some '\t'
  -- An escape by code point is longer than a character, so it is read elsewhere.
  else none

/-- The code that a JSON string has in place of a character. -/
def takeCode? : (text : Text) → Option (Taken Nat text)
  | '\\' :: 'u' :: rest => (takeHex? 4 rest).map fun code => code.past.past
  | _ => none

/-- One character of a JSON string, which may be written as an escape. -/
def takeStringChar? : (text : Text) → Option (Taken Char text)
  | '\\' :: 'u' :: rest =>
    (takeHex? 4 rest).bind fun code =>
      match charOfCode? code.value with
      | some char => some (code.map fun _ => char).past.past
      | none =>
        -- A first half of a surrogate pair needs the second one behind it.
        (takeCode? code.rest).bind fun half =>
          (charOfPair? code.value half.value).map fun char =>
            ((code.followedBy half).map fun _ => char).past.past
  | '\\' :: mark :: _ => (jsonEscape? mark).map fun char => (Taken.first char).past
  | c :: _ =>
    if c.toNat < 0x20 || c = '"' || c = '\\' then none else some (Taken.first c)
  | [] => none

/-- The characters of a JSON string up to its closing quote. -/
def takeString? (text : Text) : Option (Taken Text text) :=
  match takeStringChar? text with
  | some char =>
    (takeString? char.rest).map fun tail =>
      (char.followedBy tail).map fun (c, text) => c :: text
  | none =>
    -- A bare quote is no character of the string.
    match text with
    | '"' :: _ => some (Taken.first [])
    | _ => none
termination_by text.length
decreasing_by exact char.shorter

/-- The characters that JSON numbers are written with. -/
def isNumberChar (c : Char) : Bool :=
  c.isDigit || c == '-' || c == '+' || c == '.' || c == 'e' || c == 'E'

/--
The value of a number: an integer that fits sixty-four bits, or else the nearest double.

A digit is needed before and behind a point, a leading zero stands alone, and a plus is no sign.
-/
def jsonNumber? (numeral : Text) : Option Json :=
  -- A plus in front stays where it is, and then no digit is found.
  let body := match numeral with
    | '-' :: rest => rest
    | _ => numeral
  let whole := body.takeWhile Char.isDigit
  let behind := body.dropWhile Char.isDigit
  let wellFormed := whole ≠ [] && (whole.length == 1 || whole.head? != some '0') &&
    match behind with
    | '.' :: next => next.head?.any Char.isDigit
    | _ => true
  if wellFormed then
    (Decimal.ofText? numeral).bind fun number =>
      let value : Int := if number.negative then -(number.digits : Int) else number.digits
      -- The sign of zero is kept only by a double.
      let exact := behind = [] && !(number.negative && number.digits = 0) &&
        Int64.minValue.toInt ≤ value && value < UInt64.size
      if exact then some (.integer value)
      else if number.isFinite then some (.float number.toFloat)
      else none
  else none

/-- A word or a number in front of a text. -/
def takeBare? : (text : Text) → Option (Taken Json text)
  | 'n' :: 'u' :: 'l' :: 'l' :: _ => some (Taken.first Json.null).past.past.past
  | text =>
    match takeBool? text with
    | some taken => some (taken.map Json.bool)
    | none =>
      -- What is no word can only be a numeral.
      (takeRun? isNumberChar text).bind fun numeral =>
        (jsonNumber? numeral.value).map fun value => numeral.map fun _ => value

/-- The members of an object: a later value takes the place of an earlier one under its key. -/
def collectMembers (members : List (Text × Json)) : List (Text × Json) :=
  members.foldl (fun collected (key, value) => upsert key value collected) []

mutual

/-- A value in front of a text, with a bound on how deep arrays and objects are nested. -/
def takeValue? (depth : Nat) (text : Text) : Option (Taken Json text) :=
  match _start : skipGap text with
  | '"' :: rest =>
    -- The body is shorter than the text with its gap and its quote.
    (takeString? rest).map fun taken => (taken.map Json.string).widen (by
      have := skipGap_length text
      simp only [_start, List.length_cons] at this
      omega)
  | '[' :: rest =>
    -- The depth is spent at each bracket, so a value too deep is refused.
    match depth, _first : skipGap rest with
    | 0, _ => none
    | _ + 1, ']' :: behind =>
      some ⟨.array [], behind, by
        have := skipGap_length text
        have := skipGap_length rest
        simp only [_start, _first, List.length_cons] at *
        omega⟩
    | depth + 1, _ =>
      (takeItems? depth rest).map fun taken => (taken.map Json.array).widen (by
        have := skipGap_length text
        simp only [_start, List.length_cons] at this
        omega)
  | '{' :: rest =>
    match depth, _first : skipGap rest with
    | 0, _ => none
    | _ + 1, '}' :: behind =>
      some ⟨.object [], behind, by
        have := skipGap_length text
        have := skipGap_length rest
        simp only [_start, _first, List.length_cons] at *
        omega⟩
    | depth + 1, _ =>
      (takeMembers? depth rest).map fun taken =>
        -- Keys may repeat in the text, and the last value of each is the one collected.
        (taken.map (Json.object ∘ collectMembers)).widen (by
          have := skipGap_length text
          simp only [_start, List.length_cons] at this
          omega)
  | start => (takeBare? start).map fun taken => taken.widen (by
      rw [← _start]
      exact skipGap_length text)
termination_by (text.length, 0)
decreasing_by
  all_goals
    have := skipGap_length text
    simp only [_start, List.length_cons] at this
    exact Prod.Lex.left _ _ (by omega)

/-- The items of an array up to its closing bracket. -/
def takeItems? (depth : Nat) (text : Text) : Option (Taken (List Json) text) :=
  match takeValue? depth text with
  | some item =>
    match _behind : skipGap item.rest with
    -- The last item is behind it, and the list ends here.
    | ']' :: rest =>
      some ⟨[item.value], rest, by
        have := item.shorter
        have := skipGap_length item.rest
        simp only [_behind, List.length_cons] at this
        omega⟩
    | ',' :: rest =>
      (takeItems? depth rest).map fun more => (more.map (item.value :: ·)).widen (by
        have := item.shorter
        have := skipGap_length item.rest
        simp only [_behind, List.length_cons] at this
        omega)
    | _ => none
  | none => none
termination_by (text.length, 1)
decreasing_by
  · exact Prod.Lex.right _ (by omega)
  · have := item.shorter
    have := skipGap_length item.rest
    simp only [_behind, List.length_cons] at this
    exact Prod.Lex.left _ _ (by omega)

/-- The members of an object up to its closing brace. -/
def takeMembers? (depth : Nat) (text : Text) : Option (Taken (List (Text × Json)) text) :=
  match _start : skipGap text with
  | '"' :: body =>
    match takeString? body with
    | some key =>
      -- A key is always followed by a colon and a value.
      match _colon : skipGap key.rest with
      | ':' :: start =>
        match takeValue? depth start with
        | some value =>
          match _behind : skipGap value.rest with
          | '}' :: rest =>
            some ⟨[(key.value, value.value)], rest, by
              have := skipGap_length text
              have := key.shorter
              have := skipGap_length key.rest
              have := value.shorter
              have := skipGap_length value.rest
              simp only [_start, _colon, _behind, List.length_cons] at *
              omega⟩
          | ',' :: rest =>
            (takeMembers? depth rest).map fun more =>
              (more.map ((key.value, value.value) :: ·)).widen (by
                have := skipGap_length text
                have := key.shorter
                have := skipGap_length key.rest
                have := value.shorter
                have := skipGap_length value.rest
                simp only [_start, _colon, _behind, List.length_cons] at *
                omega)
          | _ => none
        | none => none
      | _ => none
    | none => none
  | _ => none
termination_by (text.length, 1)
decreasing_by
  · -- Each step before the value dropped a character at least.
    have := skipGap_length text
    have := key.shorter
    have := skipGap_length key.rest
    simp only [_start, _colon, List.length_cons] at *
    exact Prod.Lex.left _ _ (by omega)
  · have := skipGap_length text
    have := key.shorter
    have := skipGap_length key.rest
    have := value.shorter
    have := skipGap_length value.rest
    simp only [_start, _colon, _behind, List.length_cons] at *
    exact Prod.Lex.left _ _ (by omega)

end

/-- The value that a whole text spells, with at most 127 arrays and objects inside each other. -/
def Json.ofText? (text : Text) : Option Json :=
  match takeValue? 127 text with
  | some taken => if skipGap taken.rest = [] then some taken.value else none
  | none => none

end SqlWriter
