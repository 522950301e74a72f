import SqlWriter.Text.Basic

/-! Patterns: texts with wildcard characters or character classes in them. -/

namespace SqlWriter

/-- Whether a character class opens in front of a text: something other than `^` before a `]`. -/
def opensClass (text : Text) : Bool :=
  -- A caret in front only turns the class around.
  let body := match text with
    | '^' :: rest => rest
    | _ => text
  -- The first bracket closes the class, so with nothing in front of it the class is empty.
  match body with
  | ']' :: _ => false
  | _ => body.contains ']'

/-- Whether a text holds `%`, `_` or a class such as `[abc]` or `[^abc]`. -/
def isLikePattern : Text → Bool
  | [] => false
  | c :: rest => c == '%' || c == '_' || (c == '[' && opensClass rest) || isLikePattern rest

end SqlWriter
