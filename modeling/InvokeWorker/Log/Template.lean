import InvokeWorker.Text.Basic

/-!
# Templates

In a template a dollar sign and a name, with or without braces around it, stand for a variable, and
two dollar signs for one. Names consist of ASCII letters, digits and underscores and do not start
with a digit. What names no known variable stays as it is.
-/

namespace InvokeWorker.Template

/-- What a name starts with. -/
def isNameStart (c : CodePoint) : Bool :=
  c.isLetter || c = 95

/-- What a name goes on with. -/
def isNameRest (c : CodePoint) : Bool :=
  isNameStart c || c.isDigit

/-- The name at the front of a text and what follows it. -/
def name? (t : Text) : Option (Text × Text) :=
  match t with
  | c :: rest =>
    if isNameStart c then some (c :: rest.takeWhile isNameRest, rest.dropWhile isNameRest) else none
  | [] => none

/-- What follows a dollar sign: a reference as it is written, its name, and what comes after. -/
def reference? (t : Text) : Option (Text × Text × Text) :=
  match t with
  | 123 :: rest => match name? rest with
    | some (name, 125 :: rest) => some (123 :: name ++ [125], name, rest)
    | _ => none
  | t => (name? t).map fun (name, rest) => (name, name, rest)

/-- Replaces the references of a template, as far as their variables are known. Each code point
    costs one unit of fuel. -/
def substituteWith (known : List (Text × Text)) : (fuel : Nat) → Text → Text
  | 0, t => t
  | _, [] => []
  | fuel + 1, 36 :: 36 :: rest => 36 :: substituteWith known fuel rest
  | fuel + 1, 36 :: rest =>
    match reference? rest with
    | some (written, name, rest) =>
      (known.lookup name).getD (36 :: written) ++ substituteWith known fuel rest
    | none => 36 :: substituteWith known fuel rest
  | fuel + 1, c :: rest => c :: substituteWith known fuel rest

/-- Replaces the references of a template. -/
def substitute (known : List (Text × Text)) (t : Text) : Text :=
  substituteWith known t.length t

end InvokeWorker.Template
