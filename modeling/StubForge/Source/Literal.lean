import StubForge.Source.Token
import StubForge.Text.Escape

set_option autoImplicit false

/-!
Text literals: the text that a literal stands for, and the replacement fields of formatted ones.
`none` means that the literal is malformed.
-/

namespace StubForge.Source

-- The text of a literal's body. A null character marks bytes that could not be read.
def unescape (isBytes isRaw : Bool) (body : List Char) : Option (List Char) :=
  if body.contains '\x00' then none
  else if isBytes && body.any fun c => 128 ≤ c.toNat then none
  else if isRaw then some body
  else Text.unescape isBytes body

/-! ### Formatted texts -/

-- The expression at the start of a replacement field, up to the mark that ends it. `quote` is the quote that
-- is open, if any, and whether it is a triple one.
def fieldExpressionFrom : Nat → Option (Char × Bool) → List Char → List Char →
    Option (List Char × List Char)
  | 0, _, _, _ => none
  | _, _, _, [] => none
  | fuel + 1, quote, brackets, c :: rest =>
      let go := fun (quote : Option (Char × Bool)) (brackets taken rest : List Char) =>
        (fieldExpressionFrom fuel quote brackets rest).map fun (found, r) => (taken ++ found, r)
      let tripled := rest.take 2 = [c, c]
      if c = '\\' then none
      else
        match quote, brackets with
        | some (q, triple), _ =>
            if c ≠ q then go quote brackets [c] rest
            else if !triple then go none brackets [c] rest
            else if tripled then go none brackets [c, c, c] (rest.drop 2)
            else go quote brackets [c] rest
        | none, brackets =>
            if c = '\'' || c = '"' then
              if tripled then go (some (c, true)) brackets [c, c, c] (rest.drop 2)
              else go (some (c, false)) brackets [c] rest
            else if c = '#' then none
            else
              match closing c, brackets with
              | some close, _ => go none (close :: brackets) [c] rest
              | none, [] =>
                  let compares := c = '!' || c = '=' || c = '<' || c = '>'
                  if compares && rest.head? = some '=' then go none [] [c, '='] (rest.drop 1)
                  else if c = '!' || c = ':' || c = '\x7d' || c = '=' then some ([], c :: rest)
                  else if c = ')' || c = ']' then none
                  else go none [] [c] rest
              | none, close :: outer =>
                  if c = ')' || c = ']' || c = '\x7d' then
                    if c = close then go none outer [c] rest else none
                  else go none brackets [c] rest

def fieldExpression (s : List Char) : Option (List Char × List Char) :=
  fieldExpressionFrom (s.length + 1) none [] s

def isFieldBlank (c : Char) : Bool := c = ' ' || c = '\t' || c = '\n' || c = '\x0c'

def isSpace (c : Char) : Bool := isFieldBlank c || c = '\r' || c = '\x0b'

def afterExpression (s : List Char) : Option (List Char) :=
  let s := match s with
    | '=' :: rest => rest.dropWhile isSpace
    | rest => rest
  match s with
  | '!' :: c :: rest =>
      if (c = 's' || c = 'r' || c = 'a') && (rest.head? = some ':' || rest.head? = some '\x7d') then
        some rest
      else none
  | '!' :: [] => none
  | [] => none
  | rest => some rest

def formatText (isRaw nested : Bool) : Nat → List Char → Option (List Char × List Char × Bool)
  | 0, _ => none
  | _, [] => some ([], [], false)
  | fuel + 1, c :: rest =>
      let skip := fun (taken rest : List Char) =>
        (formatText isRaw nested fuel rest).map fun (found, r, again) => (taken ++ found, r, again)
      if c = '\\' && !isRaw then
        match rest with
        | 'N' :: '\x7b' :: more =>
            let name := more.takeWhile (· ≠ '\x7d')
            let taken := name.length + 1
            skip (['\\', 'N', '\x7b'] ++ more.take taken) (more.drop taken)
        | 'N' :: d :: more => skip ['\\', 'N', d] more
        | d :: more =>
            if d = '\x7b' || d = '\x7d' then skip ['\\'] (d :: more) else skip ['\\', d] more
        | [] => some (['\\'], [], false)
      else if c = '\x7b' || c = '\x7d' then
        if nested then some ([], c :: rest, false)
        else
          match rest with
          | d :: more =>
              if d = c then some ([c], more, true)
              else if c = '\x7d' then none
              else some ([], c :: rest, false)
          | [] => if c = '\x7d' then none else some ([], c :: rest, false)
      else skip [c] rest

-- Fields may hold fields in their format, and these no more.
def fieldLimit : Nat := 2

-- Reads a formatted text up to its end or, within a field, up to the brace that ends the field.
def formatBody (isRaw : Bool) (isExpression : List Char → Bool) :
    Nat → Nat → List Char → Option (List Char)
  | 0, _, _ => none
  | fuel + 1, level, s => do
      let (text, rest, again) ← formatText isRaw (0 < level) (s.length + 1) s
      let _ ← unescape false isRaw text
      if again then formatBody isRaw isExpression fuel level rest
      else
        match rest with
        | '\x7b' :: inner =>
            if fieldLimit ≤ level then none
            else do
              let (expression, after) ← fieldExpression inner
              if expression.all isFieldBlank || !isExpression expression then none
              else do
                let after ← afterExpression after
                let after ← match after with
                  | ':' :: format =>
                      if format.isEmpty then none
                      else formatBody isRaw isExpression fuel (level + 1) format
                  | other => some other
                match after with
                | '\x7d' :: rest => formatBody isRaw isExpression fuel level rest
                | _ => none
        | rest => some rest

def isFormatText (isRaw : Bool) (isExpression : List Char → Bool) (body : List Char) : Bool :=
  match formatBody isRaw isExpression (body.length + 2) 0 body with
  | some rest => rest.isEmpty
  | none => false

end StubForge.Source
