import EditorBridge.Cursor.Hover
import EditorBridge.Proofs.Diagnostic.FileMap

/-!
# What a hover shows

The texts of a hover are collected kind by kind, and each element is told whether it is the only one
or the last one of its kind. Here the same texts are given list by list: the texts of all elements
of a kind, and then the documentation of the last one. And they are collected once more by a
builder, which goes through the elements, adds text after text and drops the range when it meets one
that is not a function.

The main statement says what is shown of a report with and without verbosity, when there is nothing
to show, when the range of the place is shown, and that the builder comes to the same.
-/

namespace EditorBridge.Cursor

/-! ## The texts list by list -/

/-- Each function by itself. A function that is the only one comes after its generic function. -/
def Function.shown : List Function → List Func
  | [f] => f.generic.toList ++ [f.concrete]
  | fs => fs.map (·.concrete)

/-- The text of each call, which is that of the function called if it is known. For a call that is
the only one, the generic function comes first. -/
def Call.shown (verbose : Bool) : List Call → List String
  | [c] => c.function.elim [c.text verbose] fun f => (Function.shown [f]).map (Func.text verbose)
  | cs => cs.map fun c => c.function.elim (c.text verbose) (·.concrete.text verbose)

/-- What the completion list says about the function called, if it is known. -/
def Call.documentation (items : CompletionList) (c : Call) : List String :=
  c.function.elim [] fun f => (items.functionDocumentation f.lookup.toList).map String.ofList

/-- What the completion list says about the type of a variable, if it is known. -/
def Variable.documentation (items : CompletionList) (v : Variable) : List String :=
  v.type.elim [] fun type => (items.typeDocumentation type.toList).map String.ofList

/-- All that is told about a report: its functions if there is nothing else, its calls unless there
are variables, which verbosity disregards, its variables and its constants. After the last call and
after the last variable comes documentation. -/
def Report.told (items : CompletionList) (verbose : Bool) (d : Report) : List String :=
  (if d.calls = [] ∧ d.vars = [] ∧ d.constants = [] then
      (Function.shown d.functions).map (Func.text verbose)
    else []) ++
    (if verbose ∨ d.vars = [] then
      Call.shown verbose d.calls ++ d.calls.getLast?.elim [] (Call.documentation items)
    else []) ++
    (d.vars.map (Variable.text verbose) ++
      d.vars.getLast?.elim [] (Variable.documentation items)) ++
    d.constants.map Constant.text

section Last

variable {α β : Type}

/-- What only the last element is followed by comes after all elements. -/
theorem lastAware_eq (f g : α → List β) (xs : List α) :
    lastAware (fun last x => f x ++ if last then g x else []) xs =
      xs.flatMap f ++ xs.getLast?.elim [] g := by
  induction xs with
  | nil => rfl
  | cons x xs ih =>
    rw [lastAware, ih]
    cases xs with
    | nil => simp
    | cons y xs => simp [List.getLast?_cons_cons]

end Last

section Entries

variable (items : CompletionList) (verbose : Bool) (d : Report)

theorem flatMap_entries (fs : List Function) :
    fs.flatMap (·.entries verbose (fs.length = 1)) =
      (Function.shown fs).map (Func.text verbose) := by
  match fs with
  | [] => rfl
  | [f] => simp [Function.entries, Function.shown]
  | f :: g :: fs => simp [Function.entries, Function.shown, ← List.map_eq_flatMap]

theorem Call.entries_eq (single last : Bool) (c : Call) :
    c.entries items verbose single last =
      c.function.elim [c.text verbose] (·.entries verbose single) ++
        if last then c.documentation items else [] := by
  rw [Call.entries, Call.documentation]
  cases c.function with
  | none => simp
  | some f => rfl

theorem Variable.entries_eq (last : Bool) (v : Variable) :
    v.entries items verbose last =
      [v.text verbose] ++ if last then v.documentation items else [] := by
  rw [Variable.entries, Variable.documentation]
  cases v.type <;> simp

theorem flatMap_calls (cs : List Call) :
    cs.flatMap (fun c => c.function.elim [c.text verbose] (·.entries verbose (cs.length = 1))) =
      Call.shown verbose cs := by
  match cs with
  | [] => rfl
  | [c] => cases h : c.function <;> simp [Call.shown, Function.entries, Function.shown, h]
  | c :: c' :: cs =>
    have hentries (c : Call) : c.function.elim [c.text verbose] (·.entries verbose false) =
        [c.function.elim (c.text verbose) (·.concrete.text verbose)] := by
      cases c.function <;> simp [Function.entries]
    simp [Call.shown, hentries, ← List.map_eq_flatMap]

/-- The texts collected kind by kind are those given list by list. -/
theorem Report.entries_eq_told : d.entries items verbose = d.told items verbose := by
  have hplain : d.onlyFunctions = true ↔ d.calls = [] ∧ d.vars = [] ∧ d.constants = [] := by
    simp [onlyFunctions, and_assoc]
  have hcalls : (verbose || d.vars.isEmpty) = true ↔ verbose ∨ d.vars = [] := by simp
  simp only [entries, told, functionEntries, callEntries, flatMap_entries, Call.entries_eq,
    Variable.entries_eq, lastAware_eq, flatMap_calls, hplain, hcalls, ← List.map_eq_flatMap]

end Entries

/-! ## Text after text -/

/-- A text is added unless it has been seen, so that just the first ones stay. -/
theorem withoutRepeats_eq_eraseDups (texts : List String) :
    withoutRepeats texts = texts.eraseDups := by
  induction texts using List.reverseRecOn with
  | nil => rfl
  | append_singleton texts text ih =>
    rw [withoutRepeats] at ih
    rw [withoutRepeats, List.foldl_append, ih, FileMap.eraseDups_concat]
    simp

theorem eraseDups_eq_nil_iff {texts : List String} : texts.eraseDups = [] ↔ texts = [] := by
  simp only [List.eq_nil_iff_forall_not_mem, List.mem_eraseDups]

/-- A hover that is being built. -/
structure Builder where
  texts : List String
  range : Option Range

namespace Builder

section Steps

variable (items : CompletionList) (verbose : Bool) (b : Builder)

/-- Adds a text, unless it is there and repeated texts are not shown. -/
def add (text : String) : Builder :=
  if verbose || !b.texts.contains text then { b with texts := b.texts ++ [text] } else b

/-- Adds a function, after its generic function if `generic` says so. -/
def addFunction (f : Function) (generic : Bool) : Builder :=
  let b := match f.generic with
    | some g => if generic then b.add verbose (g.text verbose) else b
    | none => b
  b.add verbose (f.concrete.text verbose)

/-- Adds a call, and the documentation of the function called if `documented` says so. -/
def addCall (c : Call) (generic documented : Bool) : Builder :=
  let b := match c.function with
    | some f =>
      let b := b.addFunction verbose f generic
      if documented then
        ((items.functionDocumentation f.lookup.toList).map String.ofList).foldl (add verbose) b
      else b
    | none => b.add verbose (c.text verbose)
  { b with range := none }

/-- Adds a variable, and the documentation of its type if `documented` says so. -/
def addVariable (v : Variable) (documented : Bool) : Builder :=
  let b := { b.add verbose (v.text verbose) with range := none }
  match v.type with
  | some type =>
    if documented then
      ((items.typeDocumentation type.toList).map String.ofList).foldl (add verbose) b
    else b
  | none => b

/-- Adds a constant. -/
def addConstant (c : Constant) : Builder := { b.add verbose c.text with range := none }

/-- Adds all of a report. Calls and variables are counted, so as to know the last one. -/
def addReport (d : Report) : Builder :=
  let b := if d.calls.isEmpty && d.vars.isEmpty && d.constants.isEmpty then
      d.functions.foldl (fun b f => b.addFunction verbose f (d.functions.length = 1)) b
    else b
  let b := if verbose || d.vars.isEmpty then
      d.calls.zipIdx.foldl
        (fun b c => b.addCall items verbose c.1 (d.calls.length = 1) (c.2 = d.calls.length - 1)) b
    else b
  let b := d.vars.zipIdx.foldl
    (fun b v => b.addVariable items verbose v.1 (v.2 = d.vars.length - 1)) b
  d.constants.foldl (addConstant verbose) b

/-- The hover that is built, which is begun with the range of the place. -/
def hover? (d : Option Report) : Option Hover :=
  let b : Builder := ⟨[], (d.bind (·.cursor)).bind (·.range)⟩
  let b := d.elim b (b.addReport items verbose)
  if b.texts = [] then if verbose then some (.bare b.range) else none
  else some (.entries b.texts b.range)

/-- Adds texts, and keeps the range if `keeps` says so. This is all that a step does. -/
def put (texts : List String) (keeps : Bool) : Builder where
  texts := texts.foldl (fun seen t => if verbose || !seen.contains t then seen ++ [t] else seen)
    b.texts
  range := if keeps then b.range else none

end Steps

section Put

variable {items : CompletionList} {verbose : Bool} {b : Builder}

theorem put_put (texts more : List String) (keeps keeps' : Bool) :
    (b.put verbose texts keeps).put verbose more keeps' =
      b.put verbose (texts ++ more) (keeps && keeps') := by
  simp only [put, List.foldl_append, mk.injEq, true_and]
  cases keeps <;> cases keeps' <;> rfl

@[simp] theorem put_nil : b.put verbose [] true = b := rfl

theorem add_eq (text : String) : b.add verbose text = b.put verbose [text] true := by
  rw [add, put, List.foldl_cons, List.foldl_nil]
  split
  case isTrue => rfl
  case isFalse => rfl

theorem foldl_put {α : Type} (f : α → List String) (keeps : Bool) (xs : List α) :
    xs.foldl (fun b x => b.put verbose (f x) keeps) b =
      b.put verbose (xs.flatMap f) (keeps || xs.isEmpty) := by
  induction xs generalizing b with
  | nil => simp
  | cons x xs ih =>
    rw [List.foldl_cons, ih, put_put, List.flatMap_cons]
    cases keeps <;> simp

theorem foldl_add (texts : List String) :
    texts.foldl (add verbose) b = b.put verbose texts true := by
  have hadd : add verbose = fun b text => b.put verbose [text] true := by
    funext b text
    exact add_eq text
  rw [hadd, foldl_put, List.flatMap_singleton']
  rfl

theorem addFunction_eq (f : Function) (generic : Bool) :
    b.addFunction verbose f generic = b.put verbose (f.entries verbose generic) true := by
  rw [addFunction, Function.entries]
  cases f.generic with
  | none => cases generic <;> simp [add_eq]
  | some g => cases generic <;> simp [add_eq, put_put]

/-- The range can be dropped before or after. -/
theorem put_range (texts : List String) (keeps : Bool) :
    { b.put verbose texts keeps with range := none } = b.put verbose texts false := rfl

theorem addCall_eq (c : Call) (generic documented : Bool) :
    b.addCall items verbose c generic documented =
      b.put verbose (c.entries items verbose generic documented) false := by
  rw [addCall, Call.entries]
  cases c.function with
  | none => simp only [add_eq, put_range]
  | some f => cases documented <;> simp [addFunction_eq, foldl_add, put_put, put_range]

theorem addVariable_eq (v : Variable) (documented : Bool) :
    b.addVariable items verbose v documented =
      b.put verbose (v.entries items verbose documented) false := by
  rw [addVariable, Variable.entries, add_eq, put_range]
  cases v.type with
  | none => simp
  | some type => cases documented <;> simp [foldl_add, put_put]

theorem addConstant_eq (c : Constant) : b.addConstant verbose c = b.put verbose [c.text] false := by
  rw [addConstant, add_eq, put_range]

/-- The element with the last index is the last one. -/
theorem flatMap_zipIdx {α : Type} (f : Bool → α → List String) (xs : List α) (n : Nat) :
    (xs.zipIdx n).flatMap (fun x => f (x.2 = n + xs.length - 1) x.1) = lastAware f xs := by
  induction xs generalizing n with
  | nil => rfl
  | cons x xs ih =>
    have hlast : decide (n = n + (x :: xs).length - 1) = xs.isEmpty := by
      cases xs <;> simp
    have hrest : n + (x :: xs).length - 1 = n + 1 + xs.length - 1 := by
      simp only [List.length_cons]
      omega
    rw [List.zipIdx_cons, List.flatMap_cons, lastAware, ← ih (n + 1), hlast, hrest]

theorem foldl_zipIdx_put {α : Type} (f : Bool → α → List String) (xs : List α) :
    xs.zipIdx.foldl (fun b x => b.put verbose (f (x.2 = xs.length - 1) x.1) false) b =
      b.put verbose (lastAware f xs) xs.isEmpty := by
  have hlast := flatMap_zipIdx f xs 0
  rw [Nat.zero_add] at hlast
  rw [foldl_put (fun x : α × Nat => f (x.2 = xs.length - 1) x.1), hlast]
  cases xs <;> rfl

theorem addFunctions_eq (d : Report) :
    (if d.calls.isEmpty && d.vars.isEmpty && d.constants.isEmpty then
      d.functions.foldl (fun b f => b.addFunction verbose f (d.functions.length = 1)) b else b) =
      b.put verbose (d.functionEntries verbose) true := by
  simp only [addFunction_eq]
  rw [foldl_put, Report.functionEntries, Report.onlyFunctions]
  split
  case isTrue => rfl
  case isFalse => rfl

theorem addCalls_eq (d : Report) :
    (if verbose || d.vars.isEmpty then
      d.calls.zipIdx.foldl (fun b c =>
        b.addCall items verbose c.1 (d.calls.length = 1) (c.2 = d.calls.length - 1)) b else b) =
      b.put verbose (d.callEntries items verbose)
        (!(verbose || d.vars.isEmpty) || d.calls.isEmpty) := by
  simp only [addCall_eq]
  rw [foldl_zipIdx_put fun last (c : Call) =>
    c.entries items verbose (d.calls.length = 1) last, Report.callEntries]
  split
  case isTrue h => rw [h, Bool.not_true, Bool.false_or]
  case isFalse h =>
    rw [Bool.not_eq_true] at h
    rw [h, Bool.not_false, Bool.true_or, put_nil]

theorem addVariables_eq (vars : List Variable) :
    vars.zipIdx.foldl (fun b v => b.addVariable items verbose v.1 (v.2 = vars.length - 1)) b =
      b.put verbose (lastAware (fun last v => v.entries items verbose last) vars)
        vars.isEmpty := by
  simp only [addVariable_eq]
  exact foldl_zipIdx_put (fun last (v : Variable) => v.entries items verbose last) vars

theorem addConstants_eq (constants : List Constant) :
    constants.foldl (addConstant verbose) b =
      b.put verbose (constants.map Constant.text) constants.isEmpty := by
  have hconstant : addConstant verbose = fun b c => b.put verbose [c.text] false := by
    funext b c
    exact addConstant_eq c
  rw [hconstant, foldl_put, List.map_eq_flatMap, Bool.false_or]

theorem addReport_eq (d : Report) :
    b.addReport items verbose d = b.put verbose (d.entries items verbose) d.onlyFunctions := by
  -- Calls are left out only if there are variables, and then the range is dropped all the same.
  have hkeeps : (true && ((!(verbose || d.vars.isEmpty) || d.calls.isEmpty) &&
      (d.vars.isEmpty && d.constants.isEmpty))) = d.onlyFunctions := by
    rw [Report.onlyFunctions]
    cases verbose <;> cases d.vars.isEmpty <;> simp
  simp only [addReport]
  rw [addFunctions_eq, addCalls_eq, addVariables_eq, addConstants_eq, put_put, put_put, put_put,
    hkeeps, Report.entries, List.append_assoc, List.append_assoc]

theorem texts_put (texts : List String) (keeps : Bool) (range : Option Range) :
    (put verbose ⟨[], range⟩ texts keeps).texts =
      if verbose then texts else withoutRepeats texts := by
  cases verbose with
  | false =>
    simp only [put, withoutRepeats, Bool.false_or, Bool.not_eq_true', List.contains_eq_mem,
      decide_eq_false_iff_not, ite_not]
    rfl
  | true =>
    have hpushed (seen : List String) :
        texts.foldl (fun seen t => seen ++ [t]) seen = seen ++ texts := by
      induction texts generalizing seen with
      | nil => simp
      | cons t texts ih => simp [ih]
    simpa [put] using hpushed []

/-- The builder comes to the same hover. -/
theorem hover?_eq (d : Option Report) : hover? items verbose d = Hover.of? items verbose d := by
  cases d with
  | none => cases verbose <;> rfl
  | some d =>
    have hnil : (if verbose then d.entries items verbose
        else withoutRepeats (d.entries items verbose)) = [] ↔ d.entries items verbose = [] := by
      rw [withoutRepeats_eq_eraseDups]
      cases verbose with
      | false => exact eraseDups_eq_nil_iff
      | true => rfl
    simp only [hover?, Hover.of?, Option.elim_some, Option.bind_some, Option.map_some,
      Option.getD_some, addReport_eq, texts_put, hnil]
    rfl

end Put

end Builder

/-! ## Hovers -/

namespace Hover

/-- The texts that are shown. -/
def texts : Hover → List String
  | .entries texts _ => texts
  | .bare _ => []

/-- The range that a hover is shown for. If it is the range itself that is shown, there is none. -/
def range? : Hover → Option Range
  | .entries _ range => range
  | .bare _ => none

theorem member?_toJson (hover : Hover) :
    hover.toJson.member? "range" = hover.range?.map Range.toJson := by
  cases hover with
  | entries texts range => cases range <;> rfl
  | bare range => rfl

end Hover

namespace Report

variable {items : CompletionList} {verbose : Bool} {d : Report} {range : Range}

theorem range?_eq_some_iff : d.range? = some range ↔
    d.calls = [] ∧ d.vars = [] ∧ d.constants = [] ∧ ∃ anchor, d.cursor = some anchor ∧
      anchor.range = some range := by
  simp [range?, onlyFunctions, and_assoc, Option.bind_eq_some_iff]

theorem functions_shown_eq_nil_iff {fs : List Function} : Function.shown fs = [] ↔ fs = [] := by
  match fs with
  | [] => simp [Function.shown]
  | [f] => simp [Function.shown]
  | f :: g :: fs => simp [Function.shown]

theorem calls_shown_eq_nil_iff {cs : List Call} : Call.shown verbose cs = [] ↔ cs = [] := by
  match cs with
  | [] => simp [Call.shown]
  | [c] => cases h : c.function <;> simp [Call.shown, functions_shown_eq_nil_iff, h]
  | c :: c' :: cs => simp [Call.shown]

/-- Something is told of each report that is not empty. -/
theorem told_eq_nil_iff : d.told items verbose = [] ↔ d.isEmpty := by
  obtain ⟨cursor, functions, calls, vars, constants⟩ := d
  -- Variables and constants are always told, calls and functions only if these are missing.
  cases vars with
  | cons v vars => simp [told, isEmpty]
  | nil =>
    cases constants with
    | cons c constants => simp [told, isEmpty]
    | nil =>
      cases calls with
      | cons c calls => simp [told, isEmpty, calls_shown_eq_nil_iff]
      | nil => simp [told, isEmpty, Call.shown, functions_shown_eq_nil_iff]

end Report

namespace Hover

variable (items : CompletionList) (verbose : Bool) (d : Report)

theorem of?_eq : of? items verbose (some d) =
    if d.isEmpty then if verbose then some (.bare d.range?) else none
    else some (.entries (if verbose then d.told items verbose else (d.told items verbose).eraseDups)
      d.range?) := by
  have hnil : d.told items verbose = [] ↔ d.isEmpty := Report.told_eq_nil_iff
  simp only [of?, Option.map_some, Option.getD_some, Option.bind_some, Report.entries_eq_told, hnil,
    withoutRepeats_eq_eraseDups]

theorem texts_of? : (of? items verbose (some d)).elim [] texts =
    if verbose then d.told items verbose else (d.told items verbose).eraseDups := by
  rw [of?_eq]
  split
  case isTrue hempty =>
    rw [Report.told_eq_nil_iff.2 hempty]
    cases verbose <;> rfl
  case isFalse => rfl

theorem range?_of? :
    (of? items verbose (some d)).bind range? = if d.isEmpty then none else d.range? := by
  rw [of?_eq]
  split
  case isTrue => cases verbose <;> rfl
  case isFalse => rfl

theorem texts_of?_ne_nil_iff : (of? items verbose (some d)).elim [] texts ≠ [] ↔ ¬d.isEmpty := by
  have hnil : d.told items verbose = [] ↔ d.isEmpty := Report.told_eq_nil_iff
  rw [texts_of?]
  split
  case isTrue => rw [ne_eq, hnil]
  case isFalse => rw [ne_eq, eraseDups_eq_nil_iff, hnil]

/-- A verbose hover shows all that is told about a report, another one each text of it once, where
it comes first. The latter is missing just if nothing is reported. A hover has a range just if it
shows something, there is neither a call nor a variable nor a constant, and the place has a range,
which it then is. And the hover is what is built text after text. -/
theorem of?_told :
    (of? items true (some d)).elim [] texts = d.told items true ∧
    (of? items false (some d)).elim [] texts = (d.told items false).eraseDups ∧
    (of? items false (some d) = none ↔ d.isEmpty) ∧
    (∀ range, (of? items verbose (some d)).bind range? = some range ↔
      (of? items verbose (some d)).elim [] texts ≠ [] ∧
        d.calls = [] ∧ d.vars = [] ∧ d.constants = [] ∧
        ∃ anchor, d.cursor = some anchor ∧ anchor.range = some range) ∧
    (of? items verbose (some d)).bind (·.toJson.member? "range") =
      ((of? items verbose (some d)).bind range?).map Range.toJson ∧
    Builder.hover? items verbose (some d) = of? items verbose (some d) := by
  refine ⟨texts_of? items true d, texts_of? items false d, ?_, fun range => ?_, ?_,
    Builder.hover?_eq (some d)⟩
  · rw [of?_eq]
    split <;> simp [*]
  · rw [range?_of?, texts_of?_ne_nil_iff, ← Report.range?_eq_some_iff]
    split <;> simp [*]
  · simp only [Option.map_bind, member?_toJson, Function.comp_def]

end Hover

end EditorBridge.Cursor
