import Liquid.Document.Block
import Liquid.Tag.TableRow

/-!
# The standard tags

How the markup of `assign`, `if`, `tablerow`, `break` and `continue` is read. Each may be
registered under another name: a block then ends with `end` and that name, and conditions name it
in their faults.
-/

namespace Liquid

namespace Tag

open Text

/-! ### Assign -/

/-- A name, `=` and a variable that is not blank. -/
def assignment? (markup : String) : Option (String × Variable) :=
  match Markup.name? (dropBlank markup.toList) with
  | none => none
  | some (name, rest) =>
    match dropBlank rest with
    | '=' :: rest =>
      if (dropBlank rest).isEmpty then none
      else
        match Variable.parse (String.ofList rest) with
        | .ok v => some (name, v)
        | .error _ => none
    | _ => none

def readAssign : TagReader := fun _ header =>
  match assignment? header.markup with
  | some (name, v) => .ok ⟨.leaf (.assign name v), .anywhere⟩
  | none => .error (.tagUsage "assign" "assign [var] = [source]")

/-! ### Loop control -/

def readBreak : TagReader := fun _ _ => .ok ⟨.leaf (.interrupt .stop), .anywhere⟩

def readContinue : TagReader := fun _ _ => .ok ⟨.leaf (.interrupt .skip), .anywhere⟩

/-! ### Blocks -/

def readIf : TagReader := fun _ header =>
  match Condition.parse header.name header.markup with
  | .ok c => .ok ⟨.branches c, .anywhere⟩
  | .error fault => .error fault

def readTableRow : TagReader := fun _ header =>
  match TableRow.ofMarkup? header.markup with
  | some row => .ok ⟨.block header.name ("end" ++ header.name) (.tablerow row), .anywhere⟩
  | none => .error (.tagUsage "tablerow" "tablerow [item] in [collection] cols:[number]")

def standardTags : List (String × TagReader) :=
  [("assign", readAssign), ("if", readIf), ("tablerow", readTableRow), ("break", readBreak),
   ("continue", readContinue)]

def standard : Bindings TagReader := Bindings.ofPairs standardTags

end Tag

end Liquid
