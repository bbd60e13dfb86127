import BodyCheck.Filter.Failure

/-!
# Outputs of filters

What a filter gives, one output after the other.  An output is there as soon as it is asked for, and
nothing after it has to be computed.  Among the outputs are the places where the filter stopped.
Whoever takes the outputs decides what comes of a stop: parts that need not be there are left out
(`dropFailures`), and an attempt ends at the first failure (`handle`).
-/

namespace BodyCheck

namespace Filter

/-- Outputs, the rest of which is computed on demand. -/
inductive Outputs (α : Type) where
  | done
  | next (head : Except Stop α) (rest : Unit → Outputs α)

namespace Outputs

variable {α β : Type}

/-- A single output. -/
def one (a : α) : Outputs α := .next (.ok a) fun _ => .done

/-- A stop, and nothing else. -/
def stop (s : Stop) : Outputs α := .next (.error s) fun _ => .done

/-- A failure, and nothing else. -/
def fail (f : Failure) : Outputs α := stop (.failed f)

/-- The outputs of a list. -/
def ofList : List α → Outputs α
  | [] => .done
  | a :: rest => .next (.ok a) fun _ => ofList rest

/-- A result as outputs. -/
def ofExcept : Except Stop α → Outputs α
  | .ok a => one a
  | .error s => stop s

/-- A result that can fail as outputs. -/
def ofResult : Except Failure α → Outputs α
  | .ok a => one a
  | .error f => fail f

/-- A list that can fail as outputs. -/
def ofResults : Except Failure (List α) → Outputs α
  | .ok as => ofList as
  | .error f => fail f

/-- Some outputs, then others. -/
def append : Outputs α → (Unit → Outputs α) → Outputs α
  | .done, others => others ()
  | .next a rest, others => .next a fun _ => append (rest ()) others

/-- The outputs of a function on every output; stops are kept. -/
def bind (f : α → Outputs β) : Outputs α → Outputs β
  | .done => .done
  | .next (.ok a) rest => append (f a) fun _ => bind f (rest ())
  | .next (.error s) rest => .next (.error s) fun _ => bind f (rest ())

/-- A function on every output; stops are kept. -/
def map (f : α → β) : Outputs α → Outputs β
  | .done => .done
  | .next a rest => .next (a.map f) fun _ => map f (rest ())

/-- The outputs of a function on every output and every stop. -/
def bindAll (f : Except Stop α → Outputs β) : Outputs α → Outputs β
  | .done => .done
  | .next a rest => append (f a) fun _ => bindAll f (rest ())

/-- The outputs that satisfy a predicate; stops are kept. -/
def filter (p : α → Bool) : Outputs α → Outputs α
  | .done => .done
  | .next (.ok a) rest =>
    if p a then .next (.ok a) fun _ => filter p (rest ()) else filter p (rest ())
  | .next (.error s) rest => .next (.error s) fun _ => filter p (rest ())

/-- The outputs without the failures among them. -/
def dropFailures : Outputs α → Outputs α
  | .done => .done
  | .next (.error (.failed _)) rest => dropFailures (rest ())
  | .next a rest => .next a fun _ => dropFailures (rest ())

/-- The outputs up to the first failure, and then those that stand for it. -/
def handle (f : Failure → Outputs α) : Outputs α → Outputs α
  | .done => .done
  | .next (.error (.failed e)) _ => f e
  | .next a rest => .next a fun _ => handle f (rest ())

/-- The first outputs, as many as given.  A stop counts as one. -/
def take : Nat → Outputs α → Outputs α
  | 0, _ => .done
  | _ + 1, .done => .done
  | n + 1, .next a rest => .next a fun _ => if n = 0 then .done else take n (rest ())

/-- The outputs behind the first ones. -/
def drop : Nat → Outputs α → Outputs α
  | 0, o => o
  | _ + 1, .done => .done
  | n + 1, .next (.ok _) rest => drop n (rest ())
  | n + 1, .next (.error s) rest => .next (.error s) fun _ => drop n (rest ())

/-- The outputs up to the place where a label is left. -/
def untilLeft (label : Nat) : Outputs α → Outputs α
  | .done => .done
  | .next (.error (.left other)) rest =>
    if other = label then .done
    else .next (.error (.left other)) fun _ => untilLeft label (rest ())
  | .next a rest => .next a fun _ => untilLeft label (rest ())

/-- The first output, if there is one. -/
def first : Outputs α → Except Stop (Option α)
  | .done => .ok none
  | .next (.ok a) _ => .ok (some a)
  | .next (.error s) _ => .error s

/-- All outputs, unless the filter stopped among them. -/
def all : Outputs α → Except Stop (List α)
  | .done => .ok []
  | .next (.ok a) rest => do return a :: (← all (rest ()))
  | .next (.error s) _ => .error s

end Outputs

end Filter

end BodyCheck
