/-! Text placed in a column, and lists of names. -/
namespace Chip8.Text

/-- At the right end of a column of the given width; longer text is kept whole. -/
def alignRight (width : Nat) (s : String) : String :=
  String.ofList (List.replicate (width - s.length) ' ') ++ s

/-- Names in single quotes between brackets. -/
def nameList (names : List String) : String :=
  "[" ++ ", ".intercalate (names.map fun n => "'" ++ n ++ "'") ++ "]"

end Chip8.Text
