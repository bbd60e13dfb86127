import BodyCheck.Filter.Native
import BodyCheck.Filter.Parser
import BodyCheck.Filter.Scope

/-!
# The library of filters

The functions that are defined as filters, in terms of the built-in ones.  `library` holds their
definitions, and `Scope.library` all names that a filter may use.
-/

namespace BodyCheck

namespace Filter

/-- The text of the definitions. -/
def libraryText : String := "
def null: [][0];
def true: 0 == 0;
def false: 0 != 0;
def empty: [][] as $x | .;
def not: if . then false else true end;
def error(f): (f | error), .;
def select(f): if f then . else empty end;
def debug: .;
def debug(f): (f | empty), .;
def stderr: .;
def input: first(inputs);

def isboolean: type == \"boolean\";
def isnumber: type == \"number\";
def isstring: type == \"string\";
def isarray: type == \"array\";
def isobject: type == \"object\";
def values: select(. != null);
def nulls: select(. == null);
def booleans: select(isboolean);
def numbers: select(isnumber);
def strings: select(isstring);
def arrays: select(isarray);
def objects: select(isobject);
def iterables: select(isarray or isobject);
def scalars: select(isarray or isobject | not);
def isnan: . < nan and nan < .;
def isinfinite: . == infinite or . == -infinite;
def isfinite: isnumber and (isinfinite | not);
def isnormal: isnumber and ((. == 0.0 or isnan or isinfinite) | not);
def finites: select(isfinite);
def normals: select(isnormal);
def abs: if . < 0 then -. else . end;
def tonumber: if isnumber then . else fromjson end;
def have_literal_numbers: true;
def have_decnum: false;

def range($to): range(0; $to; 1);
def range($from; $to): range($from; $to; 1);
def recurse(f): def rec: ., (f | rec); rec;
def recurse: recurse(.[]?);
def recurse(f; cond): recurse(f | select(cond));
def repeat(f): def rec: f, rec; rec;
def while(cond; f): def rec: if cond then ., (f | rec) else empty end; rec;
def until(cond; f): def rec: if cond then . else f | rec end; rec;
def isempty(f): first((f | false), true);
def nth(n; f): last(limit(n + 1; f));
def nth($n): .[$n];
def first: .[0];
def last: .[-1];

def map(f): [.[] | f];
def map_values(f): .[] |= f;
def add(f): reduce f as $x (null; . + $x);
def add: add(.[]);
def join($x):
  reduce .[] as $part (null;
    (if . == null then \"\" else . + $x end)
    + ($part
      | if . == null then \"\" elif isboolean or isnumber then tojson else . end)) // \"\";
def del(f): f |= empty;
def sort: sort_by(.);
def keys: keys_unsorted | sort;
def with_entries(f): to_entries | map(f) | from_entries;
def min: min_by(.);
def max: max_by(.);
def unique_by(f): [group_by(f)[] | .[0]];
def unique: unique_by(.);
def index($i): indices($i) | .[0];
def rindex($i): indices($i) | .[-1];
def in($x): . as $k | $x | has($k);
def inside($x): . as $v | $x | contains($v);
def any(f; cond): isempty(first(f | cond | select(.))) | not;
def any(f): any(.[]; f);
def any: any(.);
def all(f; cond): isempty(first(f | cond | select(. | not)));
def all(f): all(.[]; f);
def all: all(.);
def flatten: [recurse(arrays[]) | select(isarray | not)];
def flatten($depth):
  if $depth > 0 then map(if isarray then flatten($depth - 1) else [.] end) | add else . end;
def transpose: [range([.[] | length] | max) as $i | [.[][$i]]];
def combinations:
  if length == 0 then [] else .[0][] as $x | (.[1:] | combinations) as $rest | [$x] + $rest end;
def combinations($n): [limit($n; repeat(.))] | combinations;
def walk(f): def rec: (.[]? |= rec) | f; rec;
def getpath($path):
  reduce $path[] as $key (.; if . == null then null else .[$key] end);
def paths:
  def rec($path):
    (keys_unsorted? | .[]) as $key | ($path + [$key]) as $inner | $inner, (.[$key] | rec($inner));
  rec([]);
def paths(f): . as $v | paths | select(. as $path | $v | getpath($path) | f);
def leaf_paths: paths(scalars);
def tostream:
  def rec($path):
    if (isarray or isobject) and length > 0
    then keys_unsorted as $keys
      | ($keys[] as $key | .[$key] | rec($path + [$key])), [$path + [$keys[-1]]]
    else [$path, .] end;
  rec([]);

def ascii: [.] | implode;
def todate: todateiso8601;
def fromdate: fromdateiso8601;
def date: todate;
def dateadd(unit; $x): . + $x;
def datesub(unit; $x): . - $x;
def capture_object: map(select(.name) | {(.name): .string}) | add + {};
def test($re; $flags): matches($re; $flags) | length > 0;
def test($re): test($re; \"\");
def match($re; $flags): matches($re; $flags)[] | .[0] + {captures: .[1:]};
def match($re): match($re; \"\");
def capture($re; $flags): matches($re; $flags)[] | capture_object;
def capture($re): capture($re; \"\");
def scan($re; $flags):
  matches($re; \"g\" + $flags)[]
  | if length == 1 then .[0].string else [.[1:][] | .string] end;
def scan($re): scan($re; \"\");
def split($re; $flags): [split_matches($re; \"g\" + $flags)[] | strings];
def splits($re; $flags): split($re; $flags)[];
def splits($re): splits($re; \"\");
def sub($re; f; $flags):
  [split_matches($re; $flags)[] | if isstring then . else capture_object | f end] | add;
def sub($re; f): sub($re; f; \"\");
def gsub($re; f; $flags): sub($re; f; \"g\" + $flags);
def gsub($re; f): gsub($re; f; \"\");
"

/-- The definitions of the library. -/
def library : List Definition := (Definition.parseAll libraryText).getD []

/-- The functions that take filters as arguments, with the number of these. -/
def higherNames : List (String × Nat) :=
  [("first", 1), ("last", 1), ("limit", 2), ("skip", 2), ("range", 3), ("sort_by", 1),
    ("group_by", 1), ("min_by", 1), ("max_by", 1), ("inputs", 0)]

/-- The names of built-in functions. -/
def Scope.native : Scope :=
  { filters := natives.map (fun f => (f.name, f.arity)) ++ higherNames }

/-- All names that a filter may use. -/
def Scope.library : Scope := Filter.library.foldl Scope.define Scope.native

end Filter

end BodyCheck
