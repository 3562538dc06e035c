import Adventure.Content.Reach
import Adventure.Text.Template

/-!
# Filled templates

* `fill`: the text of a template, or the first reason why there is none (`TemplateFault`).

A field names a value and the steps that lead from it to what is shown; the layout of a field may
have fields of its own.
-/

namespace Adventure

/-- The value a field names. -/
def namedValue (values : List (String × Filling)) (name : List Char) :
    Except TemplateFault Filling :=
  let head := Text.headOf name
  match Text.countFrom 0 head with
  | .number _ => .error .noSuchPosition
  | .tooFar => .error .malformed
  | .other =>
    match values.lookup (String.ofList head) with
    | none => .error (.unknownKey (.text (String.ofList head)))
    | some v => v.follow (Text.stepsOf name)

/-- The text of a list of pieces, where `layoutText` gives the text of a layout. -/
def fillPieces (values : List (String × Filling))
    (layoutText : List Char → Except TemplateFault (List Char)) :
    List Text.Piece → Except TemplateFault (List Char)
  | [] => .ok []
  | .plain c :: ps => do
    let rest ← fillPieces values layoutText ps
    return c :: rest
  | .field name conversion layout :: ps => do
    let v ← namedValue values name
    let v ← v.convert conversion
    let layout ← layoutText layout
    let shown ← v.lay layout
    let rest ← fillPieces values layoutText ps
    return shown ++ rest
  | .broken :: _ => .error .malformed

/-- The text of a layout, which may have fields of its own, but none within those. -/
def fillLayout (values : List (String × Filling)) (layout : List Char) :
    Except TemplateFault (List Char) :=
  if layout.contains '\x7b' then
    fillPieces values
      (fun l => if l.contains '\x7b' then .error .malformed else .ok l) (Text.pieces layout)
  else .ok layout

/-- **The text of a template**, its fields filled with the named values. -/
def fill (template : String) (values : List (String × Filling)) : Except TemplateFault String :=
  (fillPieces values (fillLayout values) (Text.pieces template.toList)).map String.ofList

example : (fill "\x7bname\x7d!" [("name", .text "Pala")]).toOption = some "Pala!" := by
  decide +kernel
example : (fill "\x7b\x7bx\x7d\x7d" []).toOption = some "\x7bx\x7d" := by decide +kernel
example : (fill "\x7bname" [("name", .text "Pala")]).toOption = none := by decide +kernel
example : (fill "\x7bn:03d\x7d" [("n", .number 7)]).toOption = some "007" := by decide +kernel

end Adventure
