import EditorBridge.Completion.Signature
import EditorBridge.Cursor.Text
import EditorBridge.Diagnostic.Basic

/-!
# Hovers and definitions

What an editor shows over a place, and where it goes from there.
-/

namespace EditorBridge.Cursor

/-- What is shown over a place: texts, or the range as such if there are none. -/
inductive Hover where
  | entries (texts : List String) (range : Option Range)
  | bare (range : Option Range)
deriving DecidableEq, Repr

/-- The texts of a function, after that of its generic function if `generic` says so. -/
def Function.entries (verbose generic : Bool) (f : Function) : List String :=
  (if generic then f.generic.toList.map (Func.text verbose) else []) ++ [f.concrete.text verbose]

/-- The texts of a call: those of the function called, and its documentation if `documented` says
so. -/
def Call.entries (items : CompletionList) (verbose generic documented : Bool) (c : Call) :
    List String :=
  match c.function with
  | none => [c.text verbose]
  | some f =>
    f.entries verbose generic ++
      if documented then (items.functionDocumentation f.lookup.toList).map String.ofList else []

/-- The texts of a variable, and the documentation of its type if `documented` says so. -/
def Variable.entries (items : CompletionList) (verbose documented : Bool) (v : Variable) :
    List String :=
  v.text verbose ::
    if documented then
      (v.type.toList.flatMap fun type => items.typeDocumentation type.toList).map String.ofList
    else []

/-- The texts of elements, where `f` is told which one is the last. -/
def lastAware {α β : Type} (f : Bool → α → List β) : List α → List β
  | [] => []
  | x :: xs => f xs.isEmpty x ++ lastAware f xs

namespace Report

/-- Whether functions are all that stands at the place. -/
def onlyFunctions (d : Report) : Bool := d.calls.isEmpty && d.vars.isEmpty && d.constants.isEmpty

/-- The texts of the functions, shown if there is nothing else. -/
def functionEntries (verbose : Bool) (d : Report) : List String :=
  if d.onlyFunctions then d.functions.flatMap (·.entries verbose (d.functions.length = 1)) else []

/-- The texts of the calls, shown if there are no variables or if all is to be shown. -/
def callEntries (items : CompletionList) (verbose : Bool) (d : Report) : List String :=
  if verbose || d.vars.isEmpty then
    lastAware (fun last c => c.entries items verbose (d.calls.length = 1) last) d.calls
  else []

/-- All texts in their order. -/
def entries (items : CompletionList) (verbose : Bool) (d : Report) : List String :=
  d.functionEntries verbose ++ d.callEntries items verbose ++
    lastAware (fun last v => v.entries items verbose last) d.vars ++ d.constants.map Constant.text

/-- The range of the place, shown with functions only. -/
def range? (d : Report) : Option Range := if d.onlyFunctions then d.cursor.bind (·.range) else none

end Report

/-- A list without the elements that stand in it before. -/
def withoutRepeats (texts : List String) : List String :=
  texts.foldl (fun seen text => if text ∈ seen then seen else seen ++ [text]) []

/-- What is shown over a place. Without verbosity a text is shown once only, and nothing is shown if
there is no text. -/
def Hover.of? (items : CompletionList) (verbose : Bool) (d : Option Report) : Option Hover :=
  let texts := (d.map (·.entries items verbose)).getD []
  let range := d.bind (·.range?)
  if texts = [] then if verbose then some (.bare range) else none
  else some (.entries (if verbose then texts else withoutRepeats texts) range)

/-- The compact text of a range, start first. -/
def rangeText : Option Range → String
  | none => "null"
  | some r =>
    let position (p : Position) : String :=
      "\x7b\"line\":" ++ toString p.line.toNat ++ ",\"character\":" ++
        toString p.character.toNat ++ "\x7d"
    "\x7b\"start\":" ++ position r.start ++ ",\"end\":" ++ position r.stop ++ "\x7d"

namespace Hover

/-- A text in a language. -/
def block (language value : String) : Json :=
  .ofMembers [("language", .string language), ("value", .string value)]

/-- The hover as JSON. -/
def toJson : Hover → Json
  | .entries texts range =>
    .ofPresent [("contents", some (.array (texts.map (block "dascript")))),
      ("range", range.map Range.toJson)]
  | .bare range => .ofMembers [("contents", block "json" (rangeText range))]

end Hover

namespace Report

/-- The path and range to go to: those of a variable, else of the function that the first call
calls, else of the first function. -/
def target? (d : Report) : Option (List Char × Option Range) :=
  match d.vars.head? with
  | some v => some (v.path, v.range)
  | none =>
    let f := (d.calls.head?.bind (·.function)).or d.functions.head?
    f.map fun f => (f.target.path, f.target.range)

/-- The place to go to, by a path that is text. -/
def definition? (fs : FileSystem) (r : Resolver) (d : Report) : Option Location := do
  let (path, range) ← d.target?
  if path = [] then none
  let uri ← r.uri? fs path
  return ⟨uri, range.getD .origin⟩

end Report

end EditorBridge.Cursor
