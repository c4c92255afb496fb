/-!
Columns: a text brought to a least width by spaces. A text that is wider stays as it is.
-/

namespace AccessWeave.Text

def alignLeft (width : Nat) (text : String) : String :=
  text ++ String.ofList (List.replicate (width - text.length) ' ')

def alignRight (width : Nat) (text : String) : String :=
  String.ofList (List.replicate (width - text.length) ' ') ++ text

end AccessWeave.Text
