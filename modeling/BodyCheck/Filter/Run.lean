import BodyCheck.Filter.Library
import BodyCheck.Filter.Outputs

/-!
# Running filters

`run` gives the outputs of a filter on an input, and `update` the values in which the parts that the
filter leads to have been updated.

Definitions, arguments, variables and labels stand in one list, the innermost first.  What a
definition may use is the part of the list that begins with it, so it may use itself.  An argument
that is a filter brings its own list along.  Every label is numbered by how many labels have been
entered around it, and leaving it ends the outputs of that label only.

Both functions take a bound on how deeply filters may run inside each other.  What lies around a
filter is the same for every part of it, and only functions that are no filters look at it.
-/

namespace BodyCheck

namespace Filter

/-! ## Bindings -/

/-- Something that a name stands for. -/
inductive Binding where
  | variable (name : String) (v : Value)
  | definition (d : Definition)
  /-- An argument that is a filter, with what it may use. -/
  | argument (name : String) (body : Term) (bindings : List Binding)
  | label (name : String) (number : Nat)

/-- What a call of a filter refers to. -/
inductive Callee where
  | definition (d : Definition) (bindings : List Binding)
  | argument (body : Term) (bindings : List Binding)

/-- The value of a variable. -/
def boundValue? (name : String) : List Binding → Option Value
  | [] => none
  | .variable x v :: rest => if x = name then some v else boundValue? name rest
  | _ :: rest => boundValue? name rest

/-- The number of a label. -/
def labelNumber? (name : String) : List Binding → Option Nat
  | [] => none
  | .label l n :: rest => if l = name then some n else labelNumber? name rest
  | _ :: rest => labelNumber? name rest

/-- The filter of a name with so many arguments. -/
def callee? (name : String) (arity : Nat) : List Binding → Option Callee
  | [] => none
  | .definition d :: rest =>
    if d.name = name ∧ d.parameters.length = arity then
      some (.definition d (.definition d :: rest))
    else callee? name arity rest
  | .argument x body bindings :: rest =>
    if x = name ∧ arity = 0 then some (.argument body bindings) else callee? name arity rest
  | _ :: rest => callee? name arity rest

/-- Bindings with definitions, one after the other. -/
def bindDefinitions (bindings : List Binding) : List Definition → List Binding
  | [] => bindings
  | d :: rest => bindDefinitions (.definition d :: bindings) rest

/-- The bindings of the library. -/
def libraryBindings : List Binding := bindDefinitions [] library

/-! ## Parts of a run

Each of these takes the run of a filter as an argument. -/

/-- Bindings with the parameters of a definition bound to arguments.  A parameter that stands for a
value is bound to each output of its argument in turn. -/
def bindParameters (eval : Term → Outputs Value) (outer : List Binding) :
    List String → List Term → List Binding → Outputs (List Binding)
  | x :: xs, t :: ts, bindings =>
    if Scope.isVariable x then
      (eval t).bind fun v => bindParameters eval outer xs ts (.variable x v :: bindings)
    else bindParameters eval outer xs ts (.argument x t outer :: bindings)
  | _, _, bindings => .one bindings

/-- The values of arguments, in every combination. -/
def argumentValues (eval : Term → Outputs Value) : List Term → Outputs (List Value)
  | [] => .one []
  | t :: rest => (eval t).bind fun v => (argumentValues eval rest).map (v :: ·)

/-- An optional filter, run if there is one. -/
def optionValue (eval : Term → Outputs Value) : Option Term → Outputs (Option Value)
  | none => .one none
  | some t => (eval t).map some

/-- The parts that are meant, in every combination. -/
def selectors (eval : Term → Outputs Value) :
    List (Selector Term × Bool) → Outputs (List (Selector Value × Bool))
  | [] => .one []
  | (s, optional) :: rest =>
    let values : Outputs (Selector Value) :=
      match s with
      | .all => .one .all
      | .index i => (eval i).map .index
      | .range first last =>
        (optionValue eval first).bind fun first =>
          (optionValue eval last).map fun last => .range first last
    values.bind fun s => (selectors eval rest).map ((s, optional) :: ·)

/-- The parts of a value. -/
def readParts : List (Selector Value × Bool) → Value → Outputs Value
  | [], v => .one v
  | (s, optional) :: rest, v =>
    let parts := Outputs.ofResults (v.select s)
    (if optional then parts.dropFailures else parts).bind (readParts rest)

/-- A value with its parts updated. -/
def updateParts (f : Value → Outputs Value) :
    List (Selector Value × Bool) → Value → Outputs Value
  | [], v => f v
  | (s, optional) :: rest, v =>
    let replacement : Replacement :=
      ⟨fun part => (updateParts f rest part).first, fun part => (updateParts f rest part).all⟩
    .ofExcept (v.update optional replacement s)

/-- The outputs of a piece of a text. -/
def pieceOutputs (eval : Term → Outputs Value) (format : Value → Outputs Value) :
    Piece → Outputs Value
  | .literal s => .one (.string s)
  | .output t => (eval t).bind format

/-- Pieces put behind a text, in every combination. -/
def joinPieces (eval : Term → Outputs Value) (format : Value → Outputs Value) (joined : Value) :
    List Piece → Outputs Value
  | [] => .one joined
  | p :: rest =>
    (pieceOutputs eval format p).bind fun v =>
      (Outputs.ofResult (joined.add v)).bind fun joined => joinPieces eval format joined rest

/-- The texts of pieces, in every combination. -/
def pieceTexts (eval : Term → Outputs Value) (format : Value → Outputs Value) :
    List Piece → Outputs Value
  | [] => .one (.string "")
  | p :: rest =>
    (pieceOutputs eval format p).bind fun v => joinPieces eval format v rest

/-- The objects of entries, in every combination, put behind others. -/
def objectsFrom (eval : Term → Outputs Value) (bindings : List Binding) (v : Value) :
    List (Term × Option Term) → List (String × Value) → Outputs Value
  | [], entries => .one (.object entries)
  | (.variable x, none) :: rest, entries =>
    match boundValue? x bindings with
    | some value => objectsFrom eval bindings v rest (putEntry (bareName x) value entries)
    | none => .stop .exhausted
  | (k, value) :: rest, entries =>
    (eval k).bind fun k =>
      let values : Outputs Value :=
        match value with
        | some t => eval t
        | none => .ofResult (v.index k)
      values.bind fun value =>
        match k with
        | .string key => objectsFrom eval bindings v rest (putEntry key value entries)
        | _ => .fail (.role k .string)

mutual

/-- Bindings with the variables of a pattern bound to the parts of a value.  A key that is a filter
runs on the value whose part it names. -/
def bindPattern (eval : Term → Value → Outputs Value) (v : Value)
    (bindings : List Binding) : Pattern → Outputs (List Binding)
  | .variable x => .one (.variable x v :: bindings)
  | .array ps => bindElements eval v 0 bindings ps
  | .object es => bindEntries eval v bindings es

/-- Bindings with patterns bound to elements, from an index on. -/
def bindElements (eval : Term → Value → Outputs Value) (v : Value) (index : Nat)
    (bindings : List Binding) : List Pattern → Outputs (List Binding)
  | [] => .one bindings
  | p :: rest =>
    (Outputs.ofResult (v.index (.ofNat index))).bind fun part =>
      (bindPattern eval part bindings p).bind fun bindings =>
        bindElements eval v (index + 1) bindings rest

/-- Bindings with patterns bound to entries. -/
def bindEntries (eval : Term → Value → Outputs Value) (v : Value)
    (bindings : List Binding) : List (Term × Pattern) → Outputs (List Binding)
  | [] => .one bindings
  | (k, p) :: rest =>
    (eval k v).bind fun k =>
      (Outputs.ofResult (v.index k)).bind fun part =>
        (bindPattern eval part bindings p).bind fun bindings =>
          bindEntries eval v bindings rest

end

/-- The outputs of a fold, from a state on. -/
def foldStates (kind : FoldKind) (step project : List Binding → Value → Outputs Value) :
    Outputs (List Binding) → Value → Outputs Value
  | .done, state =>
    match kind with
    | .reduce => .one state
    | .each => .done
  | .next (.error s) _, _ => .stop s
  | .next (.ok bindings) rest, state =>
    (step bindings state).bind fun state =>
      match kind with
      | .reduce => foldStates kind step project (rest ()) state
      | .each => (project bindings state).append fun _ =>
          foldStates kind step project (rest ()) state

/-- A value with the parts that a fold leads to updated.  The parts of a state are found in the
states before it. -/
def foldUpdate (change : List Binding → Value → (Value → Outputs Value) → Outputs Value)
    (f : Value → Outputs Value) : Outputs (List Binding) → Value → Outputs Value
  | .done, v => f v
  | .next (.error s) _, _ => .stop s
  | .next (.ok bindings) rest, v => change bindings v (foldUpdate change f (rest ()))

/-- A value updated once for every output of something. -/
def updateAll {α : Type} (step : α → Value → Outputs Value) :
    Outputs α → Value → Outputs Value
  | .done, v => .one v
  | .next (.error s) _, _ => .stop s
  | .next (.ok a) rest, v => (step a v).bind fun v => updateAll step (rest ()) v

/-- The outputs of the branch whose condition holds. -/
def chooseBranch (eval : Term → Outputs Value) (v : Value) :
    List (Term × Term) → Option Term → Outputs Value
  | [], none => .one v
  | [], some t => eval t
  | (c, t) :: rest, otherwise =>
    (eval c).bind fun b => if b.holds then eval t else chooseBranch eval v rest otherwise

/-- A value updated by the branch whose condition holds, once for every output of a condition. -/
def updateBranch (eval : Term → Outputs Value) (change : Term → Value → Outputs Value)
    (f : Value → Outputs Value) : List (Term × Term) → Option Term → Value → Outputs Value
  | [], none, v => f v
  | [], some t, v => change t v
  | (c, t) :: rest, otherwise, v =>
    updateAll (fun b v => if Value.holds b then change t v
      else updateBranch eval change f rest otherwise v) (eval c) v

/-- The values combined in every way.  A stop on the left goes with every value on the right. -/
def combine (f : Value → Value → Except Failure Value) (left right : Outputs Value) :
    Outputs Value :=
  left.bindAll fun a => right.bindAll fun b =>
    match a, b with
    | .error s, _ | .ok _, .error s => .stop s
    | .ok a, .ok b => .ofResult (f a b)

/-! ## Functions that take filters -/

/-- Numbers from one up to another, in steps. -/
def rangeFrom : Nat → (next last step : Value) → Outputs Value
  | 0, _, _, _ => .stop .exhausted
  | n + 1, next, last, step =>
    let goesOn :=
      match step.order (.int 0) with
      | .gt => next.before last
      | .lt => last.before next
      | .eq => !next.same last
    if goesOn then
      .next (.ok next) fun _ =>
        match next.add step with
        | .ok next => rangeFrom n next last step
        | .error f => .fail f
    else .done

/-- The last output. -/
def lastOutput (found : Option Value) : Outputs Value → Outputs Value
  | .done =>
    match found with
    | some v => .one v
    | none => .done
  | .next (.ok v) rest => lastOutput (some v) (rest ())
  | .next (.error s) _ => .stop s

/-- The elements of an array, each with the outputs of a filter on it. -/
def withKeys (eval : Value → Outputs Value) (v : Value) : Except Stop (List (Value × Value)) :=
  match v.items? with
  | .error f => .error (.failed f)
  | .ok items => items.mapM fun item => do return (item, .array (← (eval item).all))

/-- Elements with keys, those with equal keys that stand side by side in one list. -/
def groupSorted : List (Value × Value) → List (List (Value × Value))
  | [] => []
  | e :: rest =>
    match groupSorted rest with
    | (e' :: group) :: groups =>
      if e.2.same e'.2 then (e :: e' :: group) :: groups else [e] :: (e' :: group) :: groups
    | groups => [e] :: groups

/-- The first element with the least key. -/
def leastOf : List (Value × Value) → Option (Value × Value)
  | [] => none
  | e :: rest =>
    match leastOf rest with
    | some e' => if e'.2.before e.2 then some e' else some e
    | none => some e

/-- The last element with the greatest key. -/
def greatestOf : List (Value × Value) → Option (Value × Value)
  | [] => none
  | e :: rest =>
    match greatestOf rest with
    | some e' => if e'.2.before e.2 then some e else some e'
    | none => some e

/-- The value of a function that goes by keys. -/
def byKeys (name : String) (elements : List (Value × Value)) : Value :=
  match name with
  | "sort_by" => .array ((Value.sortOn (·.2) elements).map (·.1))
  | "group_by" =>
    .array ((groupSorted (Value.sortOn (·.2) elements)).map fun g => .array (g.map (·.1)))
  | "min_by" => (leastOf elements).elim .null (·.1)
  | _ => (greatestOf elements).elim .null (·.1)

/-- So many first outputs, or all but these. -/
def counted (keep : Bool) (n : Value) (o : Outputs Value) : Outputs Value :=
  match n.int? with
  | .ok n => if keep then o.take n.toNat else o.drop n.toNat
  | .error f => .fail f

/-- The outputs of a function that is not defined as a filter. -/
def runNative (around : Surroundings) (eval : Term → Value → Outputs Value) (name : String)
    (arguments : List Term) (v : Value) : Outputs Value :=
  match name, arguments with
  | "inputs", [] => .done
  | "first", [t] => (eval t v).take 1
  | "last", [t] => lastOutput none (eval t v)
  | "limit", [n, t] => (eval n v).bind fun n => counted true n (eval t v)
  | "skip", [n, t] => (eval n v).bind fun n => counted false n (eval t v)
  | "range", [a, b, c] =>
    (eval a v).bind fun a => (eval b v).bind fun b => (eval c v).bind fun c =>
      rangeFrom (Nat.pow 2 64) a b c
  | "sort_by", [t] | "group_by", [t] | "min_by", [t] | "max_by", [t] =>
    .ofExcept ((withKeys (eval t) v).map (byKeys name))
  | _, _ =>
    match native? name arguments.length with
    | some f =>
      (argumentValues (fun t => eval t v) arguments).bind fun vs => .ofResult (f.run around v vs)
    | none => .stop .exhausted

/-! ## The two functions -/

mutual

/-- The outputs of a filter. -/
def run (around : Surroundings) : (bound labels : Nat) → List Binding → Term → Value → Outputs Value
  | 0, _, _, _, _ => .stop .exhausted
  | n + 1, labels, bindings, t, v =>
    let eval (t : Term) : Outputs Value := run around n labels bindings t v
    let bound (source : Term) (p : Pattern) : Outputs (List Binding) :=
      (eval source).bind fun a =>
        bindPattern (fun t v => run around n labels bindings t v) a bindings p
    match t with
    | .identity => .one v
    | .recurse => run around n labels libraryBindings (.call "recurse" []) v
    | .numeral text => .one (.ofNumeral text)
    | .text format pieces =>
      let written (a : Value) : Outputs Value :=
        match format with
        | none => .one (.string a.text)
        | some f => run around n labels bindings (.call f []) a
      pieceTexts eval written pieces
    | .array none => .one (.array [])
    | .array (some body) => .ofExcept ((eval body).all.map .array)
    | .object entries => objectsFrom eval bindings v entries []
    | .negate body => (eval body).bind fun a => .ofResult a.negated
    | .binary op l r =>
      match op with
      | .comma => (eval l).append fun _ => eval r
      | .alternative =>
        match (eval l).filter Value.holds with
        | .done => eval r
        | o => o
      | .disjunction => (eval l).bind fun a =>
          if a.holds then .one (.bool true) else (eval r).map fun b => .bool b.holds
      | .conjunction => (eval l).bind fun a =>
          if a.holds then (eval r).map fun b => .bool b.holds else .one (.bool false)
      | .arithmetic op => combine (Value.calculate op) (eval l) (eval r)
      | .comparison c => combine (fun a b => .ok (.bool (c.holdsFor (a.order b)))) (eval l) (eval r)
      | .assign => (eval r).bind fun a => update around n labels bindings l v fun _ => .one a
      | .update =>
        update around n labels bindings l v fun part => run around n labels bindings r part
      | .updateArithmetic op => (eval r).bind fun a =>
          update around n labels bindings l v fun part => .ofResult (Value.calculate op part a)
      | .updateAlternative => (eval r).bind fun a =>
          update around n labels bindings l v fun part => .one (if part.holds then part else a)
    | .pipe l r => (eval l).bind fun a => run around n labels bindings r a
    | .bind source p body =>
      (bound source p).bind fun bindings => run around n labels bindings body v
    | .label name body =>
      (run around n (labels + 1) (.label name labels :: bindings) body v).untilLeft labels
    | .leave name => .stop ((labelNumber? name bindings).elim .exhausted .left)
    | .fold kind source p arguments =>
      match arguments with
      | start :: step :: project =>
        let last := project.headD .identity
        (eval start).bind fun state =>
          foldStates kind (fun bindings state => run around n labels bindings step state)
            (fun bindings state => run around n labels bindings last state) (bound source p) state
      | _ => .stop .exhausted
    | .attempt body handler =>
      (eval body).handle fun f =>
        match handler with
        | some h => run around n labels bindings h f.value
        | none => .done
    | .conditional branches otherwise => chooseBranch eval v branches otherwise
    | .define ds body => run around n labels (bindDefinitions bindings ds) body v
    | .call name arguments =>
      match callee? name arguments.length bindings with
      | some (.definition d inner) =>
        let body (inner : List Binding) : Outputs Value := run around n labels inner d.body v
        if d.parameters.isEmpty then body inner
        else (bindParameters eval bindings d.parameters arguments inner).bind body
      | some (.argument body inner) => run around n labels inner body v
      | none => runNative around (fun t v => run around n labels bindings t v) name arguments v
    | .variable name => (boundValue? name bindings).elim (.stop .exhausted) .one
    | .path source parts =>
      (eval source).bind fun a => (selectors eval parts).bind fun parts => readParts parts a

/-- A value with the parts that a filter leads to updated. -/
def update (around : Surroundings) : (bound labels : Nat) → List Binding → Term → Value →
    (Value → Outputs Value) → Outputs Value
  | 0, _, _, _, _, _ => .stop .exhausted
  | n + 1, labels, bindings, t, v, f =>
    let eval (t : Term) : Outputs Value := run around n labels bindings t v
    let change (t : Term) (v : Value) : Outputs Value := update around n labels bindings t v f
    match t with
    | .identity => f v
    | .recurse => update around n labels libraryBindings (.call "recurse" []) v f
    | .pipe l r => update around n labels bindings l v fun part => change r part
    | .bind source p body =>
      let inner : Outputs (List Binding) :=
        (eval source).bind fun a =>
          bindPattern (fun t v => run around n labels bindings t v) a bindings p
      updateAll (fun bindings v => update around n labels bindings body v f) inner v
    | .fold .reduce source p [start, step] =>
      let inner : Outputs (List Binding) :=
        (eval source).bind fun a =>
          bindPattern (fun t v => run around n labels bindings t v) a bindings p
      update around n labels bindings start v
        (foldUpdate (fun bindings state f => update around n labels bindings step state f) f inner)
    | .binary .comma l r => (change l v).bind fun v => change r v
    | .binary .alternative l r =>
      match (eval l).filter Value.holds with
      | .done => change r v
      | .next _ _ => change l v
    | .conditional branches otherwise => updateBranch eval change f branches otherwise v
    | .define ds body => update around n labels (bindDefinitions bindings ds) body v f
    | .call name arguments =>
      match callee? name arguments.length bindings with
      | some (.definition d inner) =>
        updateAll (fun inner v => update around n labels inner d.body v f)
          (bindParameters eval bindings d.parameters arguments inner) v
      | some (.argument body inner) => update around n labels inner body v f
      | none =>
        match name, arguments with
        | "error", [] => .fail (.raised v)
        | _, _ => .fail (.noPath v)
    | .path source parts =>
      update around n labels bindings source v fun part =>
        updateAll (updateParts f) (selectors eval parts) part
    | _ => .fail (.noPath v)

end

/-- How deeply filters may run inside each other. -/
def nesting : Nat := Nat.pow 2 19

/-- The outputs of a filter on a value. -/
def Term.outputs (around : Surroundings) (t : Term) (v : Value) : Outputs Value :=
  run around nesting 0 libraryBindings t v

end Filter

end BodyCheck
