import Liquid.Config.Kdl.Text

/-!
# Values in KDL documents

Strings, numbers, and the names `#true`, `#false` and `#null`. A whole number may be written in
base two, eight, ten or sixteen and has to fit 128 bits.
-/

namespace Liquid

namespace Kdl

/-- A number that is not whole is kept as it is written. -/
inductive Datum where
  | null
  | bool (b : Bool)
  | int (i : Int)
  | real (text : String)
  | str (s : String)
deriving Repr, DecidableEq

/-! ### Numbers -/

/-- A run of digits, which underscores may separate: its value and the rest. -/
def digits? (base : Nat) (s : List Char) : Option (Nat × List Char) :=
  let isPart (c : Char) := c == '_' || digitValue c < base
  match s with
  | c :: _ =>
    if digitValue c < base then
      some (valueInBase base ((s.takeWhile isPart).filter (· != '_')), s.dropWhile isPart)
    else none
  | [] => none

/-- The rest after a point and digits, if a point stands at the front; nothing if no digit follows
it. -/
def afterFraction? : List Char → Option (List Char)
  | '.' :: rest => (digits? 10 rest).map (·.2)
  | rest => some rest

def afterExponent? : List Char → Option (List Char)
  | [] => some []
  | c :: rest =>
    if c == 'e' || c == 'E' then (digits? 10 (readSign rest).2).map (·.2) else some (c :: rest)

/-- A magnitude outside the range is refused, also that of the least number of 128 bits. -/
def whole? (negative : Bool) (n : Nat) : Option Datum :=
  if n < twoPow 127 then some (.int (Double.signed negative n)) else none

def number? (s : List Char) : Option (Datum × List Char) :=
  let (negative, unsigned) := readSign s
  let inBase (base : Nat) (rest : List Char) :=
    (digits? base rest).bind fun (n, after) => (whole? negative n).map fun d => (d, after)
  match unsigned with
  | '0' :: 'x' :: rest => inBase 16 rest
  | '0' :: 'o' :: rest => inBase 8 rest
  | '0' :: 'b' :: rest => inBase 2 rest
  | _ =>
    (digits? 10 unsigned).bind fun (n, rest) =>
      ((afterFraction? rest).bind afterExponent?).bind fun after =>
        let datum? :=
          if after.length = rest.length then whole? negative n
          else some (.real (String.ofList (s.take (s.length - after.length))))
        datum?.map fun d => (d, after)

/-! ### Values -/

def keyword? : List Char → Option (Datum × List Char)
  | '#' :: s =>
    let rest := s.dropWhile isWordChar
    match String.ofList (s.takeWhile isWordChar) with
    | "true" => some (.bool true, rest)
    | "false" => some (.bool false, rest)
    | "null" => some (.null, rest)
    | "inf" => some (.real "inf", rest)
    | "-inf" => some (.real "-inf", rest)
    | "nan" => some (.real "nan", rest)
    | _ => none
  | _ => none

/-- The rest after a type in parentheses, if one stands at the front. Types say nothing here. -/
def afterType? : List Char → Option (List Char)
  | '(' :: s =>
    (string? (skipNodeSpace s)).bind fun (_, rest) =>
      match skipNodeSpace rest with
      | ')' :: rest => some (skipNodeSpace rest)
      | _ => none
  | s => some s

def datum? (s : List Char) : Option (Datum × List Char) :=
  (afterType? s).bind fun s =>
    ((keyword? s).or (number? s)).or ((string? s).map fun (text, after) => (.str text, after))

end Kdl

end Liquid
