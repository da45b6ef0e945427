import Chip8.Text.Blank

/-! Texts with references to other settings: a reference stands between a dollar sign with an
opening brace and a closing brace. A backslash before the dollar sign takes away its meaning, and
another one the meaning of that backslash. -/
namespace Chip8.Settings

/-- What a reference asks for. -/
inductive Reference where
  /-- The value of a key, spelled in pieces: dots, brackets, words and values of other references. -/
  | key (pieces : List (String ⊕ Reference))
  /-- The result of a named function. -/
  | call (name : String)

/-- Texts and references in turn. -/
abbrev Template := List (String ⊕ Reference)

namespace Template

def opening : List Char := ['$', '\x7b']

def skipBlanks (cs : List Char) : List Char := cs.dropWhile fun c => c = ' ' || c = '\t'

/-- Whether a character may belong to a word of a key. -/
def isWordChar (c : Char) : Bool := !"\\\x7b\x7d()[]:. \t'\"".toList.contains c

def isName (s : String) : Bool :=
  let starts (c : Char) := c.isAlpha || c = '_'
  match s.toList with
  | c :: rest => starts c && rest.all fun c => starts c || c.isDigit || c = '-'
  | [] => false

def functionName? : List (String ⊕ Reference) → Option String
  | [.inl s] => if isName s then some s else none
  | .inl s :: .inl "." :: rest =>
      if isName s then (functionName? rest).map fun name => s ++ "." ++ name else none
  | _ => none

/-- What follows the arguments of a function. Braces, brackets and quotes come in pairs, and the
list holds the closing marks that are still to come. -/
def skipArguments : List Char → List Char → Option (List Char)
  | _, [] => none
  | pending, '\\' :: _ :: rest => skipArguments pending rest
  | mark :: pending, c :: rest =>
      if mark = '\'' || mark = '"' then
        skipArguments (if c = mark then pending else mark :: pending) rest
      else if c = mark then if pending.isEmpty then some rest else skipArguments pending rest
      else if c = '\x7b' then skipArguments ('\x7d' :: mark :: pending) rest
      else if c = '[' then skipArguments (']' :: mark :: pending) rest
      else if c = '\'' || c = '"' then skipArguments (c :: mark :: pending) rest
      else if c = '\x7d' || c = ']' then none
      else skipArguments (mark :: pending) rest
  | [], _ => none

mutual

/-- A word or a reference at the front, and what follows it. -/
def readWord (fuel : Nat) (cs : List Char) : Option ((String ⊕ Reference) × List Char) :=
  match fuel with
  | 0 => none
  | fuel + 1 =>
      if cs.take 2 = opening then
        (readReference fuel [] false (cs.drop 2)).map fun (r, rest) => (.inr r, rest)
      else
        let word := cs.takeWhile isWordChar
        if word.isEmpty then none
        else some (.inl (String.ofList word), cs.dropWhile isWordChar)

/-- The rest of a reference after some pieces, where a word has come or not, and what follows it. -/
def readReference (fuel : Nat) (pieces : List (String ⊕ Reference)) (complete : Bool)
    (cs : List Char) : Option (Reference × List Char) :=
  match fuel with
  | 0 => none
  | fuel + 1 =>
      let wordAfter (mark : List (String ⊕ Reference)) (cs : List Char) :=
        match readWord fuel (skipBlanks cs) with
        | some (word, rest) => readReference fuel (pieces ++ mark ++ [word]) true rest
        | none => none
      match skipBlanks cs with
      | '\x7d' :: rest => if complete then some (.key pieces, rest) else none
      | ':' :: rest => do
          let name ← functionName? pieces
          return (.call name, ← skipArguments ['\x7d'] rest)
      | '.' :: rest =>
          if complete then wordAfter [.inl "."] rest
          else readReference fuel (pieces ++ [.inl "."]) false rest
      | '[' :: rest =>
          match readWord fuel (skipBlanks rest) with
          | some (word, rest) =>
              match skipBlanks rest with
              | ']' :: rest =>
                  readReference fuel (pieces ++ [.inl "[", word, .inl "]"]) true rest
              | _ => none
          | none => none
      | cs => if complete then none else wordAfter [] cs

end

/-- Puts a text in front, joined with a text that is there. -/
def consText (s : String) : Template → Template
  | .inl t :: rest => .inl (s ++ t) :: rest
  | parts => if s.isEmpty then parts else .inl s :: parts

/-- Backslashes before a reference: two stand for one, and an odd one makes the opening plain. -/
def backslashes (n : Nat) : String := String.ofList (List.replicate n '\\')

/-- The template that a text spells, if every reference in it is well formed. -/
def read (fuel : Nat) (cs : List Char) : Option Template :=
  match fuel with
  | 0 => none
  | fuel + 1 =>
      match cs with
      | [] => some []
      | '\\' :: _ =>
          let count := (cs.takeWhile (· = '\\')).length
          let rest := cs.dropWhile (· = '\\')
          if rest.take 2 ≠ opening then
            (read fuel rest).map (consText (backslashes count))
          else if count % 2 = 1 then
            (read fuel (rest.drop 2)).map
              (consText (backslashes (count / 2) ++ String.ofList opening))
          else (read fuel rest).map (consText (backslashes (count / 2)))
      | c :: rest =>
          if cs.take 2 = opening then
            match readReference fuel [] false (cs.drop 2) with
            | some (r, rest) => (read fuel rest).map (.inr r :: ·)
            | none => none
          else (read fuel rest).map (consText c.toString)

/-- Every step of reading takes at least one character, or ends a word or a reference. -/
def ofText? (s : String) : Option Template := read (3 * s.length + 3) s.toList

/-- Whether a text opens a reference anywhere. Others are not templates. -/
def isTemplate (s : String) : Bool :=
  let rec scan : List Char → Bool
    | c :: rest => (c :: rest).take 2 = opening || scan rest
    | [] => false
  scan s.toList

end Template
end Chip8.Settings
