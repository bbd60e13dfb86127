import BodyCheck.Filter.Term
import BodyCheck.Filter.Token

/-!
# Reading filters

`Term.parse` reads a filter from its text.  A filter is a chain of simple filters with operators
between them.  The chain is read first, and then folded from the operators that bind most closely to
those that bind least (`Chain.fold`).  From the closest on: the remainder, products, sums, order,
equality, `and`, `or`, alternatives, updates, the comma and the pipe.  Updates and pipes group to
the right, all others to the left.

In front of a filter may stand directives, which name the filter or import something.  A name and
imported data mean nothing to a filter that does not use them.  There is nothing that definitions
could be imported from, so a directive that imports some is not accepted.

The readers take tokens from the front of a list and return what is left.  Their bound is a multiple
of the number of tokens.
-/

namespace BodyCheck

namespace Filter

/-! ## Chains -/

/-- What stands between two filters of a chain. -/
inductive Link where
  | operator (op : Operator)
  | pipe
  /-- The outputs on the left are bound on the right. -/
  | bind (pattern : Pattern)

/-- How closely a link binds. -/
def Link.level : Link → Nat
  | .pipe | .bind _ => 0
  | .operator .comma => 1
  | .operator .assign | .operator .update | .operator (.updateArithmetic _)
  | .operator .updateAlternative => 2
  | .operator .alternative => 3
  | .operator .disjunction => 4
  | .operator .conjunction => 5
  | .operator (.comparison .equal) | .operator (.comparison .unequal) => 6
  | .operator (.comparison _) => 7
  | .operator (.arithmetic .add) | .operator (.arithmetic .subtract) => 8
  | .operator (.arithmetic .multiply) | .operator (.arithmetic .divide) => 9
  | .operator (.arithmetic .remainder) => 10

/-- Links of a level group to the right. -/
def groupsRight (level : Nat) : Bool := level == 0 || level == 2

/-- Two filters with a link between them. -/
def Link.join : Link → Term → Term → Term
  | .operator op, l, r => .binary op l r
  | .pipe, l, r => .pipe l r
  | .bind pattern, l, r => .bind l pattern r

/-- A filter and those linked to it. -/
structure Chain where
  head : Term
  tail : List (Link × Term)

/-- The filters joined by the links of a level that groups to the left. -/
def joinLeft (level : Nat) (head : Term) : List (Link × Term) → Chain
  | [] => ⟨head, []⟩
  | (link, t) :: rest =>
    if link.level = level then joinLeft level (link.join head t) rest
    else
      let c := joinLeft level t rest
      ⟨head, (link, c.head) :: c.tail⟩

/-- The filters joined by the links of a level that groups to the right. -/
def joinRight (level : Nat) (head : Term) : List (Link × Term) → Chain
  | [] => ⟨head, []⟩
  | (link, t) :: rest =>
    let c := joinRight level t rest
    if link.level = level then ⟨link.join head c.head, c.tail⟩
    else ⟨head, (link, c.head) :: c.tail⟩

/-- The chain with the links of a level joined. -/
def Chain.joinLevel (c : Chain) (level : Nat) : Chain :=
  if groupsRight level then joinRight level c.head c.tail else joinLeft level c.head c.tail

/-- The filter that a chain stands for. -/
def Chain.fold (c : Chain) : Term :=
  ([10, 9, 8, 7, 6, 5, 4, 3, 2, 1, 0].foldl Chain.joinLevel c).head

/-! ## Operators -/

/-- The operator of a symbol, except for the comma. -/
def Operator.ofSymbol? : String → Option Operator
  | "//" => some .alternative
  | "+" => some (.arithmetic .add)
  | "-" => some (.arithmetic .subtract)
  | "*" => some (.arithmetic .multiply)
  | "/" => some (.arithmetic .divide)
  | "%" => some (.arithmetic .remainder)
  | "<" => some (.comparison .less)
  | "<=" => some (.comparison .lessEqual)
  | ">" => some (.comparison .greater)
  | ">=" => some (.comparison .greaterEqual)
  | "==" => some (.comparison .equal)
  | "!=" => some (.comparison .unequal)
  | "=" => some .assign
  | "|=" => some .update
  | "+=" => some (.updateArithmetic .add)
  | "-=" => some (.updateArithmetic .subtract)
  | "*=" => some (.updateArithmetic .multiply)
  | "/=" => some (.updateArithmetic .divide)
  | "%=" => some (.updateArithmetic .remainder)
  | "//=" => some .updateAlternative
  | _ => none

/-- The link of a token, except for bindings.  The comma is one only where it is allowed. -/
def Link.ofToken? (comma : Bool) : Token → Option Link
  | .word "and" => some (.operator .conjunction)
  | .word "or" => some (.operator .disjunction)
  | .symbol "|" => some .pipe
  | .symbol "," => if comma then some (.operator .comma) else none
  | .symbol s => (Operator.ofSymbol? s).map .operator
  | _ => none

/-! ## Readers -/

/-- The words that name no filter. -/
def keywords : List String :=
  ["include", "import", "def", "as", "label", "break", "if", "then", "elif", "else", "end", "or",
    "and", "reduce", "foreach", "try", "catch"]

/-- A word can be given to a filter as its name. -/
def isName (word : String) : Bool := !keywords.contains word && !word.toList.contains ':'

/-- The rest of a symbol that begins with a point. -/
def fieldName? (s : String) : Option String :=
  match s.toList with
  | '.' :: ch :: rest => if Token.startsName ch then some (String.ofList (ch :: rest)) else none
  | _ => none

/-- Whether marks that a part need not be there follow, and what is left behind them. -/
def optionalMarks : List Token → Bool × List Token
  | .symbol "?" :: rest => (true, (optionalMarks rest).2)
  | ts => (false, ts)

/-- The name of a variable without its dollar sign. -/
def bareName (x : String) : String := String.ofList (x.toList.drop 1)

mutual

/-- Reads a filter.  Where the comma is not allowed it ends before one. -/
def term : Nat → (comma : Bool) → List Token → Option (Term × List Token)
  | 0, _, _ => none
  | n + 1, comma, ts => do
    let (head, ts) ← simple n ts
    let (tail, ts) ← links n comma ts
    return ((Chain.mk head tail).fold, ts)

/-- Reads links and the filters behind them. -/
def links : Nat → (comma : Bool) → List Token → Option ((List (Link × Term)) × List Token)
  | 0, _, _ => none
  | n + 1, comma, ts =>
    match ts with
    | .word "as" :: rest => do
      let (p, rest) ← pattern n rest
      match rest with
      | .symbol "|" :: rest =>
        let (t, rest) ← simple n rest
        let (more, rest) ← links n comma rest
        return ((.bind p, t) :: more, rest)
      | _ => none
    | t :: rest =>
      match Link.ofToken? comma t with
      | some link => do
        let (t, rest) ← simple n rest
        let (more, rest) ← links n comma rest
        return ((link, t) :: more, rest)
      | none => some ([], ts)
    | [] => some ([], [])

/-- Reads all tokens as a filter. -/
def whole : Nat → List Token → Option Term
  | 0, _ => none
  | n + 1, ts =>
    match term n true ts with
    | some (t, []) => some t
    | _ => none

/-- Reads a filter without operators, with the parts that are taken of it. -/
def simple : Nat → List Token → Option (Term × List Token)
  | 0, _ => none
  | n + 1, ts => do
    let (t, ts) ← atom n ts
    let (marked, ts) := optionalMarks ts
    let t := if marked then .attempt t none else t
    let (ps, ts) ← parts n ts
    return (if ps.isEmpty then t else .path t ps, ts)

/-- Reads the parts that are taken of a filter. -/
def parts : Nat → List Token → Option ((List (Selector Term × Bool)) × List Token)
  | 0, _ => none
  | n + 1, ts =>
    match ts with
    | .block '[' inner :: rest => do
      let s ← selector n inner
      let (marked, rest) := optionalMarks rest
      let (more, rest) ← parts n rest
      return ((s, marked) :: more, rest)
    | .symbol "." :: .text ps :: rest => do
      let ps ← textPieces n ps
      let (marked, rest) := optionalMarks rest
      let (more, rest) ← parts n rest
      return ((.index (.text none ps), marked) :: more, rest)
    | .symbol "." :: .format name :: .text ps :: rest => do
      let ps ← textPieces n ps
      let (marked, rest) := optionalMarks rest
      let (more, rest) ← parts n rest
      return ((.index (.text (some name) ps), marked) :: more, rest)
    | .symbol s :: rest =>
      match fieldName? s with
      | some name => do
        let (marked, rest) := optionalMarks rest
        let (more, rest) ← parts n rest
        return ((.index (.literal name), marked) :: more, rest)
      | none => some ([], ts)
    | _ => some ([], ts)

/-- Reads what stands between the brackets of a part. -/
def selector : Nat → List Token → Option (Selector Term)
  | 0, _ => none
  | n + 1, ts =>
    match ts with
    | [] => some .all
    | .symbol ":" :: rest => do return .range none (some (← whole n rest))
    | _ => do
      let (first, rest) ← term n true ts
      match rest with
      | [] => return .index first
      | [.symbol ":"] => return .range (some first) none
      | .symbol ":" :: rest => return .range (some first) (some (← whole n rest))
      | _ => none

/-- Reads a filter without operators and without parts. -/
def atom : Nat → List Token → Option (Term × List Token)
  | 0, _ => none
  | n + 1, ts =>
    match ts with
    | .symbol "-" :: rest => do
      let (t, rest) ← simple n rest
      return (.negate t, rest)
    | .word "def" :: _ => do
      let (ds, rest) ← definitions n ts
      let (t, rest) ← term n true rest
      return (.define ds t, rest)
    | .word "if" :: rest => do
      let (bs, otherwise, rest) ← branches n rest
      return (.conditional bs otherwise, rest)
    | .word "try" :: rest => do
      let (t, rest) ← simple n rest
      match rest with
      | .word "catch" :: rest =>
        let (h, rest) ← simple n rest
        return (.attempt t (some h), rest)
      | _ => return (.attempt t none, rest)
    | .word "label" :: .variable x :: .symbol "|" :: rest => do
      let (t, rest) ← term n true rest
      return (.label x t, rest)
    | .word "label" :: _ => none
    | .word "break" :: .variable x :: rest => some (.leave x, rest)
    | .word "break" :: _ => none
    | .word "reduce" :: rest => folding n .reduce rest
    | .word "foreach" :: rest => folding n .each rest
    | .word name :: rest =>
      if keywords.contains name then none
      else
        match rest with
        | .block '(' inner :: rest => do return (.call name (← arguments n inner), rest)
        | _ => some (.call name [], rest)
    | .variable x :: rest => some (.variable x, rest)
    | .format name :: .text ps :: rest => do return (.text (some name) (← textPieces n ps), rest)
    | .format name :: rest => some (.call name [], rest)
    | .numeral s :: rest => some (.numeral s, rest)
    | .text ps :: rest => do return (.text none (← textPieces n ps), rest)
    | .block '(' inner :: rest => do return (← whole n inner, rest)
    | .block '[' inner :: rest =>
      if inner.isEmpty then some (.array none, rest)
      else do return (.array (some (← whole n inner)), rest)
    | .block _ inner :: rest => do return (.object (← entries n inner), rest)
    | .symbol ".." :: rest => some (.recurse, rest)
    | .symbol "." :: .text ps :: rest => do
      let ps ← textPieces n ps
      let (marked, rest) := optionalMarks rest
      let (more, rest) ← parts n rest
      return (.path .identity ((.index (.text none ps), marked) :: more), rest)
    | .symbol "." :: .format name :: .text ps :: rest => do
      let ps ← textPieces n ps
      let (marked, rest) := optionalMarks rest
      let (more, rest) ← parts n rest
      return (.path .identity ((.index (.text (some name) ps), marked) :: more), rest)
    | .symbol s :: rest =>
      if s = "." then some (.identity, rest)
      else
        match fieldName? s with
        | some name => do
          let (marked, rest) := optionalMarks rest
          let (more, rest) ← parts n rest
          return (.path .identity ((.index (.literal name), marked) :: more), rest)
        | none => none
    | [] => none

/-- Reads the rest of a fold.  Whether it has as many arguments as it needs is not asked here. -/
def folding : Nat → FoldKind → List Token → Option (Term × List Token)
  | 0, _, _ => none
  | n + 1, kind, ts => do
    let (source, rest) ← simple n ts
    match rest with
    | .word "as" :: rest =>
      let (p, rest) ← pattern n rest
      match rest with
      | .block '(' inner :: rest => return (.fold kind source p (← arguments n inner), rest)
      | _ => return (.fold kind source p [], rest)
    | _ => none

/-- Reads the branches of a conditional, after the word that opens one, up to its end. -/
def branches : Nat → List Token →
    Option (List (Term × Term) × Option Term × List Token)
  | 0, _ => none
  | n + 1, ts => do
    let (condition, rest) ← term n true ts
    match rest with
    | .word "then" :: rest =>
      let (result, rest) ← term n true rest
      match rest with
      | .word "end" :: rest => return ([(condition, result)], none, rest)
      | .word "else" :: rest =>
        let (otherwise, rest) ← term n true rest
        match rest with
        | .word "end" :: rest => return ([(condition, result)], some otherwise, rest)
        | _ => none
      | .word "elif" :: rest =>
        let (more, otherwise, rest) ← branches n rest
        return ((condition, result) :: more, otherwise, rest)
      | _ => none
    | _ => none

/-- Reads filters with semicolons between them. -/
def arguments : Nat → List Token → Option (List Term)
  | 0, _ => none
  | n + 1, ts => do
    let (t, rest) ← term n true ts
    match rest with
    | [] => return [t]
    | .symbol ";" :: rest => return t :: (← arguments n rest)
    | _ => none

/-- Reads the pieces of a text. -/
def textPieces : Nat → List TextPiece → Option (List Piece)
  | 0, _ => none
  | n + 1, ps =>
    match ps with
    | [] => some []
    | .literal s :: rest => do return .literal s :: (← textPieces n rest)
    | .filter ts :: rest => do return .output (← whole n ts) :: (← textPieces n rest)

/-- Reads the entries of an object.  A comma may follow the last one. -/
def entries : Nat → List Token → Option (List (Term × Option Term))
  | 0, _ => none
  | n + 1, ts =>
    match ts with
    | [] => some []
    | _ => do
      let (e, rest) ← entry n ts
      match rest with
      | [] => return [e]
      | .symbol "," :: rest => return e :: (← entries n rest)
      | _ => none

/-- Reads an entry of an object. -/
def entry : Nat → List Token → Option ((Term × Option Term) × List Token)
  | 0, _ => none
  | n + 1, ts =>
    match ts with
    | .block '(' inner :: .symbol ":" :: rest => do
      let key ← whole n inner
      let (v, rest) ← term n false rest
      return ((key, some v), rest)
    | .variable x :: rest => entryValue n (.variable x) rest
    | .word name :: rest => entryValue n (.literal name) rest
    | .text ps :: rest => do entryValue n (.text none (← textPieces n ps)) rest
    | .format name :: .text ps :: rest => do
      entryValue n (.text (some name) (← textPieces n ps)) rest
    | _ => none

/-- Reads the value of an entry, if one is given. -/
def entryValue : Nat → Term → List Token → Option ((Term × Option Term) × List Token)
  | 0, _, _ => none
  | n + 1, key, ts =>
    match ts with
    | .symbol ":" :: rest => do
      let (v, rest) ← term n false rest
      return ((key, some v), rest)
    | _ => some ((key, none), ts)

/-- Reads a pattern. -/
def pattern : Nat → List Token → Option (Pattern × List Token)
  | 0, _ => none
  | n + 1, ts =>
    match ts with
    | .variable x :: rest => some (.variable x, rest)
    | .block '[' inner :: rest => do return (.array (← patterns n inner), rest)
    | .block '{' inner :: rest => do return (.object (← patternEntries n inner), rest)
    | _ => none

/-- Reads patterns with commas between them. -/
def patterns : Nat → List Token → Option (List Pattern)
  | 0, _ => none
  | n + 1, ts => do
    let (p, rest) ← pattern n ts
    match rest with
    | [] => return [p]
    | .symbol "," :: rest => return p :: (← patterns n rest)
    | _ => none

/-- Reads the entries of a pattern.  A comma may follow the last one. -/
def patternEntries : Nat → List Token → Option (List (Term × Pattern))
  | 0, _ => none
  | n + 1, ts =>
    match ts with
    | [] => some []
    | _ => do
      let (e, rest) ← patternEntry n ts
      match rest with
      | [] => return [e]
      | .symbol "," :: rest => return e :: (← patternEntries n rest)
      | _ => none

/-- Reads an entry of a pattern. -/
def patternEntry : Nat → List Token → Option ((Term × Pattern) × List Token)
  | 0, _ => none
  | n + 1, ts =>
    match ts with
    | .variable x :: rest => some ((.literal (bareName x), .variable x), rest)
    | .word name :: .symbol ":" :: rest => do
      let (p, rest) ← pattern n rest
      return ((.literal name, p), rest)
    | .text ps :: .symbol ":" :: rest => do
      let ps ← textPieces n ps
      let (p, rest) ← pattern n rest
      return ((.text none ps, p), rest)
    | .format name :: .text ps :: .symbol ":" :: rest => do
      let ps ← textPieces n ps
      let (p, rest) ← pattern n rest
      return ((.text (some name) ps, p), rest)
    | .block '(' inner :: .symbol ":" :: rest => do
      let key ← whole n inner
      let (p, rest) ← pattern n rest
      return ((key, p), rest)
    | _ => none

/-- Reads definitions, up to something that is none. -/
def definitions : Nat → List Token → Option (List Definition × List Token)
  | 0, _ => none
  | n + 1, ts =>
    match ts with
    | .word "def" :: rest => do
      let (name, ps, rest) ← head n rest
      match rest with
      | .symbol ":" :: rest =>
        let (body, rest) ← term n true rest
        match rest with
        | .symbol ";" :: rest =>
          let (more, rest) ← definitions n rest
          return (.mk name ps body :: more, rest)
        | _ => none
      | _ => none
    | _ => some ([], ts)

/-- Reads the name of a definition and its parameters. -/
def head : Nat → List Token → Option (String × List String × List Token)
  | 0, _ => none
  | n + 1, ts =>
    match ts with
    | .word name :: rest | .format name :: rest =>
      if !isName name then none
      else
        match rest with
        | .block '(' inner :: rest => do return (name, ← parameters n inner, rest)
        | _ => some (name, [], rest)
    | _ => none

/-- Reads parameters with semicolons between them. -/
def parameters : Nat → List Token → Option (List String)
  | 0, _ => none
  | n + 1, ts =>
    match ts with
    | .word x :: rest | .variable x :: rest =>
      if !isName x then none
      else
        match rest with
        | [] => some [x]
        | .symbol ";" :: rest => do return x :: (← parameters n rest)
        | _ => none
    | _ => none

end

/-! ## Directives -/

/-- Reads what is said about a directive, and its end. -/
def directiveEnd (bound : Nat) (ts : List Token) : Option (List Token) :=
  match ts with
  | .symbol ";" :: rest => some rest
  | _ => do
    match ← term bound true ts with
    | (_, .symbol ";" :: rest) => some rest
    | _ => none

/-- What follows the name of a filter, if one is given. -/
def withoutName (bound : Nat) (ts : List Token) : Option (List Token) :=
  match ts with
  | .word "module" :: rest => do
    match ← term bound true rest with
    | (_, .symbol ";" :: rest) => some rest
    | _ => none
  | _ => some ts

/-- What follows the directives that import data.  The count bounds how many they are. -/
def withoutImports (bound : Nat) : (count : Nat) → List Token → Option (List Token)
  | 0, ts => some ts
  | n + 1, ts =>
    match ts with
    | .word "import" :: .text [.literal _] :: .word "as" :: .variable _ :: rest
    | .word "import" :: .text [] :: .word "as" :: .variable _ :: rest => do
      withoutImports bound n (← directiveEnd bound rest)
    | _ => some ts

/-! ## Texts -/

/-- A bound on the nesting of the readers for a text: each of them takes a character or is one of a
few that do not. -/
def readingBound (s : List Char) : Nat := 8 * s.length + 8

/-- The filter that a text stands for. -/
def Term.parse (s : String) : Option Term := do
  let bound := readingBound s.toList
  let ts ← withoutName bound (← Token.scan s.toList)
  whole bound (← withoutImports bound ts.length ts)

/-- The definitions that a text stands for. -/
def Definition.parseAll (s : String) : Option (List Definition) := do
  match ← definitions (readingBound s.toList) (← Token.scan s.toList) with
  | (ds, []) => return ds
  | _ => none

end Filter

end BodyCheck
