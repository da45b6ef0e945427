import Chip8.Error
import Chip8.Settings.Scalar
import Chip8.Settings.Template

/-! Settings by name. A value may be a template, whose references are followed when it is looked
up. -/
namespace Chip8.Settings

/-- Keys in the order in which they are listed. A key without a value must be given one. -/
structure Configuration where
  entries : List (String × Option Scalar)

namespace Configuration

/-- What stands for a value that must be given. -/
def placeholder : String := "???"

/-- Replaces the value of a key, or adds the key at the end. The placeholder replaces nothing. -/
def assign (c : Configuration) (key : String) (v : Scalar) : Configuration :=
  let given := if v.text? = some placeholder then none else some v
  match c.entries.lookup key with
  | some old => ⟨c.entries.map fun (k, was) => if k = key then (k, given.or old) else (k, was)⟩
  | none => ⟨c.entries ++ [(key, given)]⟩

def checkTemplate (key : String) (v : Scalar) : Except Error Unit :=
  match v with
  | .text s =>
      if Template.isTemplate s && (Template.ofText? s).isNone then .error (.malformedReference key)
      else .ok ()
  | _ => .ok ()

/-- Replaces values one after the other, if all templates among them are well formed. -/
def merge (c : Configuration) (values : List (String × Scalar)) : Except Error Configuration := do
  values.forM fun (key, v) => checkTemplate key v
  return values.foldl (fun c (key, v) => c.assign key v) c

/-- One setting to a line. Templates are listed as they are. -/
def listing (c : Configuration) : String :=
  String.join (c.entries.map fun (key, v?) =>
    let key := Text.Yaml.scalar 0 key ++ ": "
    key ++ (v?.map (Scalar.yaml key.length)).getD placeholder ++ "\n")

/-- Words of a key that are separated by dots and brackets. -/
def wordsOf (path : String) : List String :=
  let words := path.toList.splitBy fun a b => "[].".toList.contains a == "[].".toList.contains b
  (words.filter fun w => !w.all "[].".toList.contains).map String.ofList

/-- The value of a template. A single reference gives a value of any kind, all else a text. -/
def expand (follow : Reference → Except ReferenceFailure Scalar) :
    Template → Except ReferenceFailure Scalar
  | [.inr r] => follow r
  | parts => do
      let texts ← parts.mapM fun
        | .inl s => .ok s
        | .inr r => (follow r).map Scalar.display
      return .text (String.join texts)

/-- The value of a text, if it is a template. -/
def evaluate (follow : Reference → Except ReferenceFailure Scalar) (v : Scalar) :
    Except ReferenceFailure Scalar :=
  match v with
  | .text s =>
      if Template.isTemplate s then
        match Template.ofText? s with
        | some t => expand follow t
        | none => .ok v
      else .ok v
  | v => .ok v

/-- The key that a path leads to. There is one level of keys, so a path goes up at most to it. -/
def select (c : Configuration) (path : String) : Except ReferenceFailure (String × Scalar) := do
  let dots := (path.toList.takeWhile (· = '.')).length
  if dots > 1 then throw (.aboveTop path)
  let path := String.ofList (path.toList.drop dots)
  let key := (wordsOf path).headD path
  match c.entries.lookup key with
  | none => throw (.unknownKey path)
  | some none => throw (.missing key)
  | some (some v) =>
      match (wordsOf path).tail with
      | child :: _ => throw (.noContainer path key child)
      | [] => return (key, v)

/-- The value that a reference asks for. It must not lead back to a key on the way to it. -/
def follow (c : Configuration) (fuel : Nat) (visited : List String) (r : Reference) :
    Except ReferenceFailure Scalar :=
  match fuel with
  | 0 => .error .circular
  | fuel + 1 =>
      match r with
      | .call name => .error (.unknownFunction name)
      | .key pieces => do
          let words ← pieces.mapM fun
            | .inl s => .ok s
            | .inr inner => (c.follow fuel visited inner).map Scalar.display
          let (key, v) ← c.select (String.join words)
          if visited.contains key then throw .circular
          evaluate (c.follow fuel (key :: visited)) v

/-- References on the way to a value stand in different places of different texts. -/
def depth (c : Configuration) : Nat :=
  c.entries.foldl (fun n (_, v?) => n + ((v?.bind Scalar.text?).getD "").length) 1

/-- The value of a key, with all references followed. -/
def value (c : Configuration) (key : String) : Except Error Scalar :=
  match c.entries.lookup key with
  | some (some v) => (evaluate (c.follow c.depth []) v).mapError (.reference key)
  | _ => .error (.settingMissing key)

def valueAs {α : Type} (c : Configuration) (key : String) (kind? : Scalar → Option α) :
    Except Error α := do
  match kind? (← c.value key) with
  | some a => return a
  | none => throw (.settingKind key)

end Configuration
end Chip8.Settings
